import InputActions.Proofs.Accord

/-!
# What is owed after everything was forgotten

Forgetting empties the list of what is owed, and a release under way has its entries in hand, where
nothing forgets them. If the surface refuses one of its events, it puts the rest back. So after a
reset every entry is the inverse of a press since, or was in hand at the reset of a release that has
failed since (`Schedule.owed_since_reset`). Only the latter sort can make a release fail for its
arguments.
-/
namespace InputActions

/-! ### Entries and their presses -/

/-- Whether the surface was told of a press that an entry undoes. -/
def Notice.Owes (log : List Notice) (entry : Action) : Prop :=
  ∃ notice ∈ log, ∃ action, notice.action = some action ∧ action.inverse? = some entry

theorem Notice.Owes.mono {log more : List Notice} {entry : Action} (h : Owes log entry)
    (sub : ∀ notice ∈ log, notice ∈ more) : Owes more entry := by
  obtain ⟨notice, member, undone⟩ := h
  exact ⟨notice, sub notice member, undone⟩

theorem Action.pressed_of_inverse? {action entry : Action}
    (h : action.inverse? = some entry) : ∃ trigger, action.gesture.pressed? = some trigger := by
  unfold inverse? at h
  split at h
  next gesture => exact ⟨_, by rw [gesture]; rfl⟩
  next gesture => exact ⟨_, by rw [gesture]; rfl⟩
  · cases h

/-- No gesture presses and lifts. -/
theorem Gesture.lifted?_of_pressed {gesture : Gesture} {trigger : Trigger}
    (h : gesture.pressed? = some trigger) : gesture.lifted? = none := by
  cases gesture <;> first | rfl | cases h

namespace Slot

variable {slot : Slot} {context : Context} {duration : UInt64} {world : World}

/-- What a section adds to what is owed is the inverse of a press that it tells of. -/
theorem step_owes (slot : Slot) (context : Context) (duration : UInt64) (world : World)
    {entry : Action}
    (owed : entry ∈ (slot.step context duration world).1.inputs.pending.entries) :
    entry ∈ world.inputs.pending.entries ∨
      Notice.Owes (slot.notices context duration world) entry := by
  have turn := slot.step_turn context duration world
  have told := @notices_of_told slot context duration world
  generalize (slot.step context duration world).1 = after at *
  generalize (slot.step context duration world).2 = next at *
  generalize slot.notices context duration world = notices at *
  cases turn with
  | @press action trigger _ _ _ _ _ pressed _ _ _ inputs _ journal =>
    obtain ⟨injection, journal⟩ := journal
    obtain ⟨rfl, -⟩ := told journal
    obtain ⟨inverse, undone, -⟩ := Action.inverse?_of_pressed pressed
    simp only [inputs, Pending.record, undone, Pending.push, List.mem_append,
      List.mem_singleton] at owed
    rcases owed with old | rfl
    · exact Or.inl old
    · exact Or.inr ⟨_, List.mem_cons_self, action, rfl, undone⟩
  | lift _ _ _ _ inputs => exact Or.inl (by rwa [inputs] at owed)
  | pass => exact Or.inl owed
  | deny => exact Or.inl owed
  | takeBack _ _ _ _ inputs => exact Or.inl (by rwa [inputs] at owed)
  | lose _ _ _ inputs => exact Or.inl (by rwa [inputs] at owed)
  | land _ _ inputs => exact Or.inl (by rwa [inputs] at owed)
  | arrive _ inputs => exact Or.inl (by rwa [inputs] at owed)
  | still inputs => exact Or.inl (by rwa [inputs] at owed)

/-- The inverse of a press that a section tells of fits the source that was pressed. -/
theorem fits_of_told {entry : Action}
    (told : Notice.Owes (slot.notices context duration world) entry) :
    entry.Fits (slot.step context duration world).1.inputs.store := by
  obtain ⟨notice, member, action, meant, undone⟩ := told
  have begins : slot = .ready action := by
    obtain ⟨injection, -, rfl⟩ := List.mem_map.mp member
    cases slot <;> cases meant
    rfl
  subst begins
  obtain ⟨trigger, pressed⟩ := Action.pressed_of_inverse? undone
  have none := Gesture.lifted?_of_pressed pressed
  have turn := (Slot.ready action).step_turn context duration world
  have silent := @notices_of_silent (.ready action) context duration world
  generalize ((Slot.ready action).step context duration world).1 = after at *
  generalize ((Slot.ready action).step context duration world).2 = next at *
  have kinds : ∀ id kind, world.inputs.store.kind? id = some kind →
      after.inputs.store.kind? id = some kind := fun id _ known => (turn.kind? id).trans known
  cases turn with
  | press pressed' accepts =>
    obtain ⟨inverse, undone', same, lifts⟩ := Action.inverse?_of_pressed pressed'
    cases undone.symm.trans undone'
    exact ⟨_, lifts, (same ▸ accepts).of_kinds kinds⟩
  | lift lifted => exact nomatch none.symm.trans lifted
  | pass lifted => exact nomatch none.symm.trans lifted
  | deny lifted => exact nomatch none.symm.trans lifted
  | still _ _ _ _ still =>
    -- A press of what is down is not told.
    rw [silent (still action rfl)] at member
    cases member

/-- A slot that replays an entry goes on to do so until it settles. -/
theorem Turn.replays {before after : World} {next : Slot} {entry : Action} {trigger : Trigger}
    (h : slot.Turn before after next) (replays : slot.Replays entry)
    (lifts : entry.gesture.lifted? = some trigger) (unsettled : next.isSettled = false) :
    next.Replays entry := by
  cases replays with
  | ready =>
    cases h with
    | press pressed => exact nomatch (Gesture.lifted?_of_pressed pressed).symm.trans lifts
    | lift lifted _ _ _ _ under => exact .waiting lifted under
    | still _ other => exact nomatch lifts.symm.trans (other _ rfl)
    | _ => cases unsettled
  | waiting _ under =>
    cases h with
    | arrive _ _ idle => exact nomatch under.symm.trans idle
    | still _ _ idle => exact nomatch under.symm.trans idle
    | _ => cases unsettled

end Slot

namespace Activity

/-- The entries that a release has in hand. -/
def hand : Activity → List Action
  | .releasing _ entry _ rest => entry :: rest
  | _ => []

/-- Whether an activity answered with an error. -/
def isFailed : Activity → Bool
  | .finished _ (.result (.error _)) => true
  | _ => false

theorem hand_of_isFresh {activity : Activity} (fresh : activity.IsFresh) :
    activity.hand = [] := by
  cases activity <;> first | rfl | exact fresh.elim

@[simp] theorem hand_ofEntries (context : Context) (now : Nat) (entries : List Action) :
    (ofEntries context now entries).hand = entries := by
  cases entries <;> rfl

@[simp] theorem hand_ofTicks (context : Context) (now : Nat) (ticks : List Tick) :
    (ofTicks context now ticks).hand = [] := by
  cases ticks <;> rfl

theorem eq_of_isReset {activity : Activity} (resets : activity.isReset = true) :
    ∃ instant, activity = .planned instant .reset := by
  cases activity with
  | planned instant request => cases request <;> first | exact ⟨instant, rfl⟩ | cases resets
  | _ => cases resets

theorem not_isFailed_of_isReady {activity : Activity} {now : Nat}
    (ready : activity.isReady now = true) : activity.isFailed = false := by
  cases activity with
  | finished => cases ready
  | _ => rfl

private theorem planned_owes {start : Nat} {request : Request} {before after : World}
    {next : Activity} (h : (planned start request).Turn before after next) :
    (∀ entry ∈ after.inputs.pending.entries, entry ∈ before.inputs.pending.entries) ∧
      ∀ entry ∈ next.hand, entry ∈ before.inputs.pending.entries := by
  cases h with
  | start grows pending journal fresh =>
    rw [pending, hand_of_isFresh fresh]
    exact ⟨fun _ => id, fun _ member => absurd member List.not_mem_nil⟩
  | take =>
    rw [hand_ofEntries]
    exact ⟨fun _ member => absurd member List.not_mem_nil, fun _ => id⟩
  | reset =>
    exact ⟨fun _ member => absurd member List.not_mem_nil,
      fun _ member => absurd member List.not_mem_nil⟩

/-- What is owed after a section was owed before, undoes a press that it tells of, or was in hand
and is put back. What is in hand after it was so before, or was owed. -/
theorem step_owes {activity : Activity} (session : Session) {world : World}
    (ready : activity.isReady world.now = true) :
    (∀ entry ∈ (activity.step session world).1.inputs.pending.entries,
      entry ∈ world.inputs.pending.entries ∨
        Notice.Owes (activity.notices session world) entry ∨
        entry ∈ activity.hand ∧ (activity.step session world).2.isFailed = true) ∧
      ∀ entry ∈ (activity.step session world).2.hand,
        entry ∈ activity.hand ∨ entry ∈ world.inputs.pending.entries := by
  cases activity with
  | planned start request =>
    obtain ⟨owed, hand⟩ := planned_owes (step_turn session ready)
    exact ⟨fun entry member => Or.inl (owed entry member),
      fun entry member => Or.inr (hand entry member)⟩
  | sleeping wake =>
    exact ⟨fun _ => Or.inl, fun _ member => absurd member List.not_mem_nil⟩
  | finished time answer => cases ready
  | ticking context duration slots rest =>
    rcases step_ticking session ready with ⟨left, slot, right, rfl, running, stepped⟩ |
      ⟨settled, stepped⟩
    · have notices := notices_of_running running (congrArg (·.1.host) stepped)
      rw [notices, stepped]
      refine ⟨fun entry member => ?_, fun _ member => absurd member List.not_mem_nil⟩
      rcases slot.step_owes context duration world member with old | told
      · exact Or.inl old
      · exact Or.inr (Or.inl told)
    · rw [stepped]
      refine ⟨fun _ => Or.inl, fun entry member => ?_⟩
      unfold afterTick at member
      split at member
      · cases member
      · rw [hand_ofTicks] at member
        cases member
  | releasing context entry slot rest =>
    have notices : (releasing context entry slot rest).notices session world =
        slot.notices context 0 world := by
      refine notices_of_running rfl ?_
      dsimp only [step]
      unfold afterEntry
      split <;> rfl
    have owes := fun owed => @Slot.step_owes slot context 0 world owed
    rw [notices]
    dsimp only [step]
    generalize (slot.step context 0 world).1 = after at owes ⊢
    generalize (slot.step context 0 world).2 = next
    unfold afterEntry
    split
    · refine ⟨fun owed member => ?_, fun owed member => Or.inl ?_⟩
      · exact (owes owed member).imp_right Or.inl
      · rw [hand_ofEntries] at member
        exact List.mem_cons_of_mem _ member
    -- What was not replayed is owed again.
    · refine ⟨fun owed member => ?_, fun _ member => absurd member List.not_mem_nil⟩
      rcases List.mem_append.mp member with put | kept
      · exact Or.inr (Or.inr ⟨put, rfl⟩)
      · exact (owes owed kept).imp_right Or.inl
    · exact ⟨fun owed member => (owes owed member).imp_right Or.inl, fun _ => Or.inl⟩

end Activity

/-! ### From the reset on -/

namespace Schedule

variable {session : Session} {joins joins' : Schedule → Request → Prop}
  {moves moves' : Schedule → Schedule → Prop} {before start s next : Schedule} {log : List Notice}

/-- The entries that the activity at a place has in hand. -/
def hand (schedule : Schedule) (i : Nat) : List Action :=
  (schedule.activities[i]?.map (·.hand)).getD []

/-- Whether the activity at a place answered with an error. -/
def Failed (schedule : Schedule) (i : Nat) : Prop :=
  ∃ activity, schedule.activities[i]? = some activity ∧ activity.isFailed = true

/-- A reset has its section. -/
inductive Forgets : Schedule → Schedule → Prop
  | intro {session world left instant right} (due : instant ≤ world.now) :
      Forgets ⟨session, world, left ++ .planned instant .reset :: right⟩
        ⟨session, { world with inputs := .fresh },
          left ++ .finished world.now (.result (.ok ())) :: right⟩

/-- Whether an entry was in hand, at some earlier moment, of a release that has failed since. -/
def PutBack (start s : Schedule) (entry : Action) : Prop :=
  ∃ i, entry ∈ start.hand i ∧ s.Failed i

/-- Where the entries that are owed or in hand come from. -/
structure Traces (start s : Schedule) (log : List Notice) : Prop where
  owed : ∀ entry ∈ s.world.inputs.pending.entries, Notice.Owes log entry ∨ PutBack start s entry
  hand : ∀ i, ∀ entry ∈ s.hand i,
    Notice.Owes log entry ∨ PutBack start s entry ∨ entry ∈ start.hand i

theorem hand_of_getElem? {i : Nat} {activity : Activity}
    (found : s.activities[i]? = some activity) : s.hand i = activity.hand := by
  rw [hand, found]
  rfl

/-- What joins has nothing in hand. -/
theorem hand_join (s : Schedule) (instant : Nat) (request : Request) (i : Nat) :
    (s.join instant request).hand i = s.hand i := by
  unfold hand join
  by_cases inside : i < s.activities.length
  · rw [List.getElem?_append_left inside]
  · have beyond := Nat.le_of_not_lt inside
    rw [List.getElem?_append_right beyond, List.getElem?_eq_none beyond]
    cases i - s.activities.length <;> rfl

theorem PutBack.join {entry : Action} (h : PutBack start s entry) (instant : Nat)
    (request : Request) : PutBack start (s.join instant request) entry := by
  obtain ⟨i, member, activity, found, failed⟩ := h
  have inside := (List.getElem?_eq_some_iff.mp found).1
  exact ⟨i, member, activity, (List.getElem?_append_left inside).trans found, failed⟩

section
variable {world : World} {left right : List Activity} {activity : Activity}

/-- A release that has failed stays so. -/
theorem PutBack.advance {entry : Action}
    (h : PutBack start ⟨session, world, left ++ activity :: right⟩ entry)
    (ready : activity.isReady world.now = true) :
    PutBack start ⟨session, (activity.step session world).1,
      left ++ (activity.step session world).2 :: right⟩ entry := by
  obtain ⟨i, member, other, found, failed⟩ := h
  have apart : left.length ≠ i := by
    rintro rfl
    cases found.symm.trans getElem?_place
    exact Bool.false_ne_true ((Activity.not_isFailed_of_isReady ready).symm.trans failed)
  exact ⟨i, member, other, (getElem?_replaced apart _ _ _).trans found, failed⟩

theorem Traces.advance (h : Traces start ⟨session, world, left ++ activity :: right⟩ log)
    (ready : activity.isReady world.now = true) :
    Traces start ⟨session, (activity.step session world).1,
      left ++ (activity.step session world).2 :: right⟩
      (log ++ activity.notices session world) := by
  obtain ⟨owes, holds⟩ := activity.step_owes session ready
  have put {entry : Action}
      (back : PutBack start ⟨session, world, left ++ activity :: right⟩ entry) :=
    back.advance ready
  have told {entry : Action} (owed : Notice.Owes log entry) :
      Notice.Owes (log ++ activity.notices session world) entry :=
    owed.mono fun _ => List.mem_append_left _
  have inHand := h.hand left.length
  rw [hand_of_getElem? getElem?_place] at inHand
  constructor
  · intro entry member
    rcases owes entry member with old | new | ⟨held, failed⟩
    · exact (h.owed entry old).imp told put
    · exact Or.inl (new.mono fun _ => List.mem_append_right _)
    · rcases inHand entry held with owed | back | began
      · exact Or.inl (told owed)
      · exact Or.inr (put back)
      -- The entry was in hand from the start on, of a release that has just failed.
      · exact Or.inr ⟨left.length, began, _, getElem?_place, failed⟩
  -- At the place of the activity that ran, entries were in hand or have just been taken; at every
  -- other place nothing is different.
  · intro i entry member
    by_cases place : left.length = i
    · subst place
      rw [hand_of_getElem? getElem?_place] at member
      rcases holds entry member with held | owed
      · exact (inHand entry held).imp told (Or.imp_left put)
      · exact (h.owed entry owed).imp told fun back => Or.inl (put back)
    · have same : Schedule.hand ⟨session, (activity.step session world).1,
          left ++ (activity.step session world).2 :: right⟩ i =
          Schedule.hand ⟨session, world, left ++ activity :: right⟩ i := by
        simp only [Schedule.hand, getElem?_replaced place activity]
      rw [same] at member
      exact (h.hand i entry member).imp told (Or.imp_left put)

end

theorem Traces.join (h : Traces start s log) (instant : Nat) (request : Request) :
    Traces start (s.join instant request) log where
  owed entry member := (h.owed entry member).imp_right fun back => back.join instant request
  hand i entry member := by
    rw [hand_join] at member
    exact (h.hand i entry member).imp_right (Or.imp_left fun back => back.join instant request)

theorem Unfolds.traces (h : Unfolds joins moves start s log)
    (empty : start.world.inputs.pending = .empty) : Traces start s log := by
  induction h with
  | begins =>
    refine ⟨fun entry member => ?_, fun i entry member => Or.inr (Or.inr member)⟩
    rw [empty] at member
    exact absurd member List.not_mem_nil
  | join _ instant request _ ih => exact ih.join instant request
  | elapse _ _ _ ih => exact ⟨ih.owed, ih.hand⟩
  | advance _ ready _ ih => exact ih.advance ready

/-! ### Failures -/

/-- No reset has a section. -/
def Retains (s next : Schedule) : Prop :=
  ∀ (i instant : Nat), s.activities[i]? = some (.planned instant .reset) →
    next.activities[i]? = s.activities[i]?

/-- What is owed for presses since a moment can be replayed, and is, by the releases that have no
entries from before. -/
structure Replayable (start s : Schedule) (log : List Notice) : Prop where
  fits : ∀ entry, Notice.Owes log entry → entry.Fits s.world.inputs.store
  replays : ∀ i context entry slot rest,
    s.activities[i]? = some (.releasing context entry slot rest) →
      slot.Replays entry ∨ PutBack start s entry ∨ entry ∈ start.hand i

section
variable {world : World} {left right : List Activity} {activity : Activity}

theorem isReset_of_retains
    (retains : Retains ⟨session, world, left ++ activity :: right⟩
      ⟨session, (activity.step session world).1,
        left ++ (activity.step session world).2 :: right⟩)
    (ready : activity.isReady world.now = true) : activity.isReset = false := by
  by_contra resets
  obtain ⟨instant, rfl⟩ := Activity.eq_of_isReset (by simpa using resets)
  have kept := retains left.length instant getElem?_place
  rw [getElem?_place, getElem?_place] at kept
  cases kept

private theorem fits_of_notices (ready : activity.isReady world.now = true) {entry : Action}
    (told : Notice.Owes (activity.notices session world) entry) :
    entry.Fits (activity.step session world).1.inputs.store := by
  cases activity.step_ran session ready with
  | idle silent =>
    rw [Activity.notices_of_silent silent] at told
    obtain ⟨notice, member, -⟩ := told
    cases member
  | slot _ _ running store host =>
    rw [Activity.notices_of_running running host] at told
    rw [store]
    exact Slot.fits_of_told told

/-- The entry that a release has after a section is one it replays already, or one to begin with. -/
private theorem replays_step {context : Context} {entry : Action} {slot : Slot}
    {rest : List Action} (ready : activity.isReady world.now = true)
    (next : (activity.step session world).2 = .releasing context entry slot rest) :
    slot = .ready entry ∨ ∃ before after, activity = .releasing context entry before rest ∧
      slot.isSettled = false ∧ before.Turn world after slot := by
  have turn := activity.step_turn session ready
  have begins {entries : List Action} {context' : Context} {now : Nat}
      (is : Activity.ofEntries context' now entries = .releasing context entry slot rest) :
      slot = .ready entry := by
    cases entries <;> cases is
    rfl
  generalize (activity.step session world).1 = after at turn
  generalize (activity.step session world).2 = result at turn next
  cases turn with
  | start _ _ _ fresh =>
    rw [next] at fresh
    exact fresh.elim
  | take => exact Or.inl (begins next)
  | complete _ fresh =>
    rw [next] at fresh
    exact fresh.elim
  | replay turn unsettled =>
    cases next
    exact Or.inr ⟨_, _, rfl, unsettled, turn⟩
  | replayed => exact Or.inl (begins next)
  | _ => cases next

theorem Replayable.advance (h : Replayable start ⟨session, world, left ++ activity :: right⟩ log)
    (traces : Traces start ⟨session, world, left ++ activity :: right⟩ log)
    (ready : activity.isReady world.now = true) (kept : activity.isReset = false) :
    Replayable start ⟨session, (activity.step session world).1,
      left ++ (activity.step session world).2 :: right⟩
      (log ++ activity.notices session world) := by
  have turn := activity.step_turn session ready
  have fits : ∀ entry, Notice.Owes (log ++ activity.notices session world) entry →
      entry.Fits (activity.step session world).1.inputs.store := by
    rintro entry ⟨notice, member, undone⟩
    rcases List.mem_append.mp member with old | new
    · exact (h.fits entry ⟨notice, old, undone⟩).of_kinds fun _ _ => turn.kind? kept
    · exact fits_of_notices ready ⟨notice, new, undone⟩
  refine ⟨fits, fun i context entry slot rest found => ?_⟩
  -- Only the activity that ran may have a new entry to replay.
  by_cases place : left.length = i
  · subst place
    have next := Option.some.inj (getElem?_place.symm.trans found)
    rcases replays_step ready next with rfl | ⟨before, _, rfl, unsettled, turn⟩
    · exact Or.inl .ready
    · have inHand := traces.hand left.length entry (by
        rw [hand_of_getElem? getElem?_place]
        exact List.mem_cons_self)
      rcases h.replays left.length _ _ _ _ getElem?_place with replays | back | began
      -- An entry from a press since fits its source, so its replay goes on as it should.
      · rcases inHand with owed | back | began
        · obtain ⟨trigger, lifts, -⟩ := h.fits entry owed
          exact Or.inl (turn.replays replays lifts unsettled)
        · exact Or.inr (Or.inl (back.advance ready))
        · exact Or.inr (Or.inr began)
      · exact Or.inr (Or.inl (back.advance ready))
      · exact Or.inr (Or.inr began)
  · rw [getElem?_replaced place activity] at found
    exact (h.replays i context entry slot rest found).imp_right
      (Or.imp_left fun back => back.advance ready)

end

theorem Unfolds.replayable (h : Unfolds joins moves start s log)
    (retains : ∀ s next, moves s next → s.Retains next)
    (empty : start.world.inputs.pending = .empty) : Replayable start s log := by
  induction h with
  | begins =>
    refine ⟨fun entry owed => ?_, fun i context entry slot rest found => Or.inr (Or.inr ?_)⟩
    · obtain ⟨notice, member, -⟩ := owed
      cases member
    · rw [hand_of_getElem? found]
      exact List.mem_cons_self
  | @join s log _ instant request _ ih =>
    refine ⟨ih.fits, fun i context entry slot rest found => ?_⟩
    have old : s.activities[i]? = some (.releasing context entry slot rest) := by
      by_cases inside : i < s.activities.length
      · rwa [Schedule.join, List.getElem?_append_left inside] at found
      · rw [Schedule.join, List.getElem?_append_right (Nat.le_of_not_lt inside)] at found
        cases index : i - s.activities.length <;> rw [index] at found <;> cases found
    exact (ih.replays i context entry slot rest old).imp_right
      (Or.imp_left fun back => back.join instant request)
  | elapse _ _ _ ih => exact ⟨ih.fits, ih.replays⟩
  | advance before ready allowed ih =>
    exact ih.advance (before.traces empty) ready (isReset_of_retains (retains _ _ allowed) ready)

/-- A release that fails with an entry that fits fails with what the surface said. -/
private theorem host_of_replays {context : Context} {entry : Action} {slot : Slot}
    {rest : List Action} {world : World} {time : Nat} {error : ActionError}
    (fits : entry.Fits world.inputs.store) (replays : slot.Replays entry)
    (answered : ((Activity.releasing context entry slot rest).step session world).2 =
      .finished time (.result (.error error))) : ∃ refusal, error = .host refusal := by
  obtain ⟨trigger, lifts, accepts⟩ := fits
  have replay := (slot.step_turn context 0 world).replay replays lifts accepts
  unfold Activity.step at answered
  dsimp only at answered
  generalize (slot.step context 0 world).1 = after at replay answered
  generalize (slot.step context 0 world).2 = next at replay answered
  cases replay with
  | lift => cases answered
  | pass => cases rest <;> cases answered
  | land => cases rest <;> cases answered
  | takeBack =>
    cases answered
    exact ⟨_, rfl⟩

/-- From a reset on, whatever is owed undoes a press since, or was in hand at the reset of a release
that has failed since. Until the next reset, a release fails with what the surface said, unless it
comes to an entry that was in hand at the reset: its own, or one that a failed release put back. -/
theorem owed_since_reset {before : Schedule} (forgets : before.Forgets start)
    (h : Unfolds joins moves start s log) :
    (∀ entry ∈ s.world.inputs.pending.entries,
      Notice.Owes log entry ∨ PutBack start s entry) ∧
    ((∀ s next, moves s next → s.Retains next) → ∀ i activity time error,
      s.activities[i]? = some activity → activity.isRelease = true →
      activity.isReady s.world.now = true →
      (activity.step s.session s.world).2 = .finished time (.result (.error error)) →
        (∃ refusal, error = .host refusal) ∨
        ∃ entry ∈ activity.hand.head?, PutBack start s entry ∨ entry ∈ start.hand i) := by
  have empty : start.world.inputs.pending = .empty := by
    cases forgets
    rfl
  have traces := h.traces empty
  refine ⟨traces.owed, fun retains i activity time error found release ready answered => ?_⟩
  cases activity with
  | planned instant request =>
    cases request with
    | release => exact (Activity.ofEntries_ne_error _ _ _ _ _ answered).elim
    | _ => cases release
  | releasing context entry slot rest =>
    -- The entry that fails is the first one in hand; one for a press since fails with a refusal.
    have inHand := traces.hand i entry (by
      rw [hand_of_getElem? found]
      exact List.mem_cons_self)
    have old (stale : PutBack start s entry ∨ entry ∈ start.hand i) :
        ∃ owed ∈ (Activity.releasing context entry slot rest).hand.head?,
          PutBack start s owed ∨ owed ∈ start.hand i :=
      ⟨entry, rfl, stale⟩
    have replayable := h.replayable retains empty
    rcases inHand with owed | stale
    · rcases replayable.replays i context entry slot rest found with replays | stale
      · exact Or.inl (host_of_replays (replayable.fits entry owed) replays answered)
      · exact Or.inr (old stale)
    · exact Or.inr (old stale)
  | _ => cases release

/-- While no reset is planned, none has a section. -/
theorem Unfolds.retains (h : Unfolds Remembers (fun _ _ => True) start s log)
    (kept : ¬ start.Resets) : Unfolds Remembers Retains start s log ∧ ¬ s.Resets := by
  have retains {s next : Schedule} (kept : ¬ s.Resets) : s.Retains next :=
    fun _ _ found => absurd ⟨_, List.mem_of_getElem? found, rfl⟩ kept
  induction h with
  | begins => exact ⟨.begins, kept⟩
  | join _ instant request allowed ih =>
    exact ⟨ih.1.join instant request allowed, Remembers.not_resets allowed ih.2 instant⟩
  | elapse _ later _ ih => exact ⟨ih.1.elapse later (retains ih.2), ih.2⟩
  | advance _ ready _ ih =>
    exact ⟨ih.1.advance ready (retains ih.2), Moves.not_resets (.advance ready) ih.2⟩

/-- Whether the next section is that of a reset. -/
def resetsNext (schedule : Schedule) : Bool :=
  (schedule.activities.find? (·.isReady schedule.world.now)).any (·.isReset)

theorem forgets_step (h : s.resetsNext = true) : s.Forgets s.step := by
  obtain ⟨session, world, activities⟩ := s
  unfold resetsNext at h
  dsimp only at h
  cases first : activities.find? (·.isReady world.now) with
  | none =>
    rw [first] at h
    cases h
  | some activity =>
    rw [first] at h
    obtain ⟨instant, rfl⟩ := Activity.eq_of_isReset h
    obtain ⟨left, right, rfl, ran⟩ := stepFirst_of_find? session first
    have due := List.find?_some first
    rw [step, ran]
    exact .intro (of_decide_eq_true due)

/-- Whether the next section of an activity ends a release that fails for its arguments. -/
def blames (schedule : Schedule) (activity : Activity) : Bool :=
  activity.isRelease && activity.isReady schedule.world.now &&
    match (activity.step schedule.session schedule.world).2 with
    | .finished _ (.result (.error (.invalidArgument _))) => true
    | _ => false

/-- A surface that answers after five milliseconds. -/
def slow : Host := { Host.prompt ⟨100, 100⟩ with injectionDelay := fun _ _ => 5 }

/-- Two buttons of a mouse are pressed; everything is about to be forgotten while a release awaits
the answer to its first lift. -/
def forgetting : Schedule :=
  let presses := [Gesture.pointerDown 0, .pointerDown 1]
  let begun := join ⟨.ofConfig .standard, .initial slow, []⟩ 0
    (.perform [presses.map (⟨⟨"m"⟩, .pointer, none, ·⟩)] none)
  (((begun.steps 7).join 5 .release).join 7 .reset).steps 3

def forgotten : Schedule := forgetting.step

/-- The release in the section in which it fails, and another one that follows. -/
def released : Schedule := (forgotten.steps 3).join 12 .release

/-- The second release fails for its arguments, over an entry that the first one had in hand when
everything was forgotten. -/
theorem released_blames :
    let log := forgotten.record 3 ++ released.record 2
    forgetting.Forgets forgotten ∧
      Unfolds Remembers Retains forgotten (released.steps 2) log ∧
      ∃ activity, (released.steps 2).activities[3]? = some activity ∧
        (released.steps 2).blames activity = true ∧
        ∃ entry ∈ activity.hand.head?, PutBack forgotten (released.steps 2) entry := by
  intro log
  have forgets : forgetting.Forgets forgotten := forgets_step (by decide +kernel)
  have kept : ¬ forgotten.Resets := by
    have none : forgotten.activities.any (·.isReset) = false := by decide +kernel
    rintro ⟨activity, listed, resets⟩
    exact List.any_eq_false.mp none activity listed resets
  have free : ∀ s next : Schedule, True := fun _ _ => trivial
  have start : Unfolds Remembers (fun _ _ => True) forgotten forgotten [] := .begins
  have begun := start.steps free 3
  rw [List.nil_append] at begun
  have unfolds : Unfolds Remembers Retains forgotten (released.steps 2) log :=
    (((begun.join 12 .release rfl).steps free 2).retains kept).1
  have fails : ((released.steps 2).activities[3]?.any (released.steps 2).blames) = true := by
    decide +kernel
  have later : forgotten.activities.length = 3 := by decide +kernel
  cases found : (released.steps 2).activities[3]? with
  | none =>
    rw [found] at fails
    cases fails
  | some activity =>
    rw [found] at fails
    refine ⟨forgets, unfolds, activity, rfl, fails, ?_⟩
    simp only [Option.any_some, blames, Bool.and_eq_true] at fails
    obtain ⟨⟨release, ready⟩, answer⟩ := fails
    split at answer
    next answered =>
      rcases (owed_since_reset forgets unfolds).2 (fun _ _ => id) 3 activity _ _ found release ready
        answered with ⟨refusal, host⟩ | ⟨entry, first, back | began⟩
      · cases host
      · exact ⟨entry, first, back⟩
      -- The second release was not under way when everything was forgotten.
      · rw [hand, List.getElem?_eq_none (Nat.le_of_eq later)] at began
        exact absurd began List.not_mem_nil
    · cases answer

end Schedule

end InputActions
