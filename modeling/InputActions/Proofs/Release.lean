import InputActions.Proofs.Flags
import InputActions.Proofs.Standing

/-!
# Releases between calls

While calls are made one at a time, a release that answers leaves the inputs at rest: nothing is
held, no flag is set, and nothing is owed (`Schedule.release_leaves_nothing_held`). It can fail, but
only with what the surface said about the last event.

`Activity.Alone` is what the only call in progress keeps. Whatever is held is owed, as are the lifts
that will be taken back; no refused lift can be under way when a release drops an entry, because
every slot of a release belongs to the entry it replays.
-/
namespace InputActions

/-! ### Rest -/

def Source.AtRest : Source → Prop
  | .idle => True
  | .key s => s.pressed = ∅ ∧ s.modifiers = .none
  | .pointer s => s.pressed = ∅

/-- Nothing is held, no flag is set, and nothing is owed. -/
structure Inputs.AtRest (inputs : Inputs) : Prop where
  sources : ∀ (id : SourceId) (source : Source),
    inputs.store[id]? = some source → source.AtRest
  pending : inputs.pending = .empty

theorem Inputs.atRest {inputs : Inputs} (agrees : inputs.store.Agrees)
    (up : ∀ id trigger, ¬ inputs.Holds id trigger) (pending : inputs.pending = .empty) :
    inputs.AtRest := by
  refine ⟨fun id source found => ?_, pending⟩
  have free : ∀ trigger, source.held? trigger ≠ some true := by
    intro trigger held
    exact up id trigger ((holds_iff found trigger).mpr held)
  cases source with
  | idle => trivial
  | key s =>
    -- Once all keys are up, the flags follow, because they agree with the keys.
    have none : ∀ key, s.isPressed key = false := by
      intro key
      simpa [Source.held?] using free (.key key)
    constructor
    · refine Std.ExtTreeSet.ext_contains fun key => ?_
      rw [Std.ExtTreeSet.contains_empty]
      exact none key
    · refine Modifiers.ext_get fun modifier => ?_
      rw [agrees id _ found modifier, none, Modifiers.get_none]
  | pointer s =>
    have none : ∀ button, s.isPressed button = false := by
      intro button
      simpa [Source.held?] using free (.button button)
    refine Std.ExtTreeSet.ext_contains fun button => ?_
    rw [Std.ExtTreeSet.contains_empty]
    exact none button

/-! ### Calls -/

/-- Whether a request is a call on the session; the others pass time or concern the surface. -/
def Request.isCall : Request → Bool
  | .wait _ => false
  | .adjust _ => false
  | .recorded => false
  | _ => true

namespace Activity

/-- Whether a call is in progress. -/
def isCall : Activity → Bool
  | .planned _ request => request.isCall
  | .ticking .. => true
  | .releasing .. => true
  | _ => false

/-- Whether the pending releases are to be replayed, or being replayed. -/
def isRelease : Activity → Bool
  | .planned _ .release => true
  | .releasing .. => true
  | _ => false

theorem slots_of_isCall {activity : Activity} (other : activity.isCall = false) :
    activity.slots = [] := by
  cases activity <;> first | rfl | cases other

theorem owed_of_isCall {activity : Activity} (other : activity.isCall = false) :
    activity.owed = [] := by
  cases activity <;> first | rfl | cases other

/-- What is not a call leaves the inputs and the journal alone, and makes no call. -/
theorem step_of_isCall {activity : Activity} (other : activity.isCall = false) (session : Session)
    (world : World) :
    (activity.step session world).1.inputs = world.inputs ∧
      (activity.step session world).1.host.journal = world.host.journal ∧
      (activity.step session world).2.isCall = false := by
  cases activity with
  | planned start request =>
    cases request with
    | wait ms => exact ⟨rfl, rfl, rfl⟩
    | adjust change => exact ⟨rfl, by cases change <;> rfl, rfl⟩
    | recorded => exact ⟨rfl, rfl, rfl⟩
    | _ => cases other
  | sleeping => exact ⟨rfl, rfl, rfl⟩
  | finished => exact ⟨rfl, rfl, rfl⟩
  | _ => cases other

/-- A release has everything that is owed in hand, and the last event is the one whose answer it
awaits. -/
def Taken (world : World) : Activity → Prop
  | .releasing _ _ slot _ => world.inputs.pending = .empty ∧
      ∀ source trigger verdict, slot.lift? = some (source, trigger, verdict) →
        ∃ injection, world.host.journal.getLast? = some injection ∧
          injection.refusal = verdict.refusal
  | _ => True

theorem taken_of_isFresh {activity : Activity} (fresh : activity.IsFresh) (world : World) :
    activity.Taken world := by
  cases activity with
  | releasing => exact fresh.elim
  | _ => trivial

theorem taken_ofEntries {world : World} (taken : world.inputs.pending = .empty)
    (context : Context) (now : Nat) (entries : List Action) :
    (ofEntries context now entries).Taken world := by
  cases entries with
  | nil => trivial
  | cons entry rest => exact ⟨taken, nofun⟩

/-- Taking the entries that are owed does not fail. -/
theorem ofEntries_ne_error (context : Context) (now : Nat) (entries : List Action) (time : Nat)
    (error : ActionError) :
    ofEntries context now entries ≠ .finished time (.result (.error error)) := by
  intro failed
  cases entries <;> cases failed

/-- What holds while an activity is the only call. -/
structure Alone (activity : Activity) (world : World) : Prop where
  pending : ∀ entry ∈ world.inputs.pending.entries, entry.Fits world.inputs.store
  orderly : activity.Orderly world.inputs.store
  covered : ∀ id trigger,
    (world.standing activity.slots activity.owed id trigger).Covered
  taken : activity.Taken world

namespace Alone

variable {activity : Activity} {world : World}

theorem of_same {after : World} (h : activity.Alone world) (inputs : after.inputs = world.inputs)
    (journal : after.host.journal = world.host.journal) : activity.Alone after where
  pending := by
    rw [inputs]
    exact h.pending
  orderly := by
    rw [inputs]
    exact h.orderly
  covered id trigger := by
    have same : after.standing activity.slots activity.owed id trigger =
        world.standing activity.slots activity.owed id trigger := by
      simp only [World.standing, inputs]
    rw [same]
    exact h.covered id trigger
  taken := by
    have taken := h.taken
    cases activity with
    | releasing =>
      refine ⟨inputs ▸ taken.1, fun source trigger verdict under => ?_⟩
      rw [journal]
      exact taken.2 source trigger verdict under
    | _ => trivial

/-- Nothing is different for a call that has not begun. -/
theorem planned (h : activity.Alone world) (other : activity.isCall = false) (start : Nat)
    (request : Request) : (Activity.planned start request).Alone world where
  pending := h.pending
  orderly := trivial
  covered id trigger := by
    have covered := h.covered id trigger
    rwa [slots_of_isCall other, owed_of_isCall other] at covered
  taken := trivial

private theorem taken_of_replay {before after : World} {slot next : Slot} {entry : Action}
    {trigger : Trigger} (h : slot.Replay entry trigger before after next)
    (taken : before.inputs.pending = .empty) (context : Context) (rest : List Action) :
    (Activity.afterEntry context entry next rest after).2.Taken
      (Activity.afterEntry context entry next rest after).1 := by
  cases h with
  | @lift _ wake wait verdict injection _ _ pending under journal refusal =>
    refine ⟨pending.trans taken, fun source lifted other under' => ?_⟩
    cases under.symm.trans under'
    have last : after.host.journal.getLast? = some injection := by
      rw [journal, List.getLast?_concat]
    exact ⟨injection, last, refusal⟩
  | pass => exact taken_ofEntries taken ..
  | land _ _ inputs => exact taken_ofEntries (inputs ▸ taken) ..
  | takeBack => trivial

private theorem reset (session : Session) (world : World) {activity : Activity}
    (reset : activity.isReset = true) :
    (activity.step session world).2.Alone (activity.step session world).1 := by
  cases activity with
  | planned start request =>
    cases request with
    | reset => exact ⟨nofun, trivial, fun _ _ => Nat.le_refl 0, trivial⟩
    | _ => cases reset
  | _ => cases reset

/-- The only call goes on as it began. -/
theorem step (h : activity.Alone world) (session : Session)
    (ready : activity.isReady world.now = true) :
    (activity.step session world).2.Alone (activity.step session world).1 := by
  -- Once everything is forgotten the invariant holds trivially; every other section keeps it.
  cases forgets : activity.isReset with
  | true => exact reset session world forgets
  | false =>
    have turn := activity.step_turn session ready
    generalize (activity.step session world).1 = after at turn ⊢
    generalize (activity.step session world).2 = next at turn ⊢
    obtain ⟨pending, orderly⟩ := turn.orderly h.orderly h.pending
    refine ⟨pending, orderly, fun id trigger => ?_, ?_⟩
    -- The call is alone, so a refused lift under way would be its own.
    · have change := turn.standing h.orderly forgets id trigger
      exact change.covered (h.covered id trigger) change.refused_eq
    · cases turn with
      | start _ _ _ fresh => exact taken_of_isFresh fresh _
      | take => exact taken_ofEntries rfl ..
      | reset => cases forgets
      | slot => trivial
      | complete _ fresh => exact taken_of_isFresh fresh _
      | @replay context entry slot rest _ next turn unsettled =>
        obtain ⟨trigger, lifts, accepts⟩ := h.orderly.2 entry List.mem_cons_self
        have replay := turn.replay h.orderly.1 lifts accepts
        have taken := taken_of_replay replay h.taken.1 context rest
        cases next with
        | settled => cases unsettled
        | _ => exact taken
      | @replayed context entry slot rest _ turn =>
        obtain ⟨trigger, lifts, accepts⟩ := h.orderly.2 entry List.mem_cons_self
        exact taken_of_replay (turn.replay h.orderly.1 lifts accepts) h.taken.1 context rest
      | _ => trivial

theorem replay {context : Context} {entry : Action} {slot : Slot} {rest : List Action}
    (h : (Activity.releasing context entry slot rest).Alone world) :
    ∃ trigger, slot.Replay entry trigger world (slot.step context 0 world).1
      (slot.step context 0 world).2 := by
  obtain ⟨trigger, lifts, accepts⟩ := h.orderly.2 entry List.mem_cons_self
  exact ⟨trigger, (slot.step_turn context 0 world).replay h.orderly.1 lifts accepts⟩

private theorem pending_of_ok {time : Nat} (h : activity.Alone world) (session : Session)
    (release : activity.isRelease = true)
    (answered : (activity.step session world).2 = .finished time (.result (.ok ()))) :
    (activity.step session world).1.inputs.pending = .empty := by
  cases activity with
  | planned start request =>
    cases request with
    | release => rfl
    | _ => cases release
  | releasing context entry slot rest =>
    obtain ⟨trigger, replay⟩ := h.replay
    unfold Activity.step at answered ⊢
    dsimp only at answered ⊢
    generalize (slot.step context 0 world).1 = after at replay answered ⊢
    generalize (slot.step context 0 world).2 = next at replay answered ⊢
    cases replay with
    | lift => cases answered
    | pass => exact h.taken.1
    | land _ _ inputs => exact inputs ▸ h.taken.1
    | takeBack => cases answered
  | _ => cases release

/-- A release that answers ok leaves nothing held and nothing owed. -/
theorem of_ok {time : Nat} (h : activity.Alone world) (session : Session)
    (ready : activity.isReady world.now = true) (release : activity.isRelease = true)
    (answered : (activity.step session world).2 = .finished time (.result (.ok ()))) :
    (activity.step session world).1.inputs.pending = .empty ∧
      ∀ id trigger, ¬ (activity.step session world).1.inputs.Holds id trigger := by
  have empty := pending_of_ok h session release answered
  refine ⟨empty, fun id trigger held => ?_⟩
  -- The call has nothing in hand and nothing is pending, so nothing can be held.
  have covered := (h.step session ready).covered id trigger
  rw [answered, World.standing, empty, decide_eq_true held] at covered
  exact absurd covered (Nat.not_succ_le_zero 0)

/-- A release fails with the refusal of the last event. -/
theorem of_error {time : Nat} {error : ActionError} (h : activity.Alone world) (session : Session)
    (release : activity.isRelease = true)
    (answered : (activity.step session world).2 = .finished time (.result (.error error))) :
    ∃ injection refusal, error = .host refusal ∧ injection.refusal = some refusal ∧
      (activity.step session world).1.host.journal.getLast? = some injection := by
  cases activity with
  | planned start request =>
    cases request with
    | release => exact (ofEntries_ne_error _ _ _ _ _ answered).elim
    | _ => cases release
  | releasing context entry slot rest =>
    obtain ⟨trigger, replay⟩ := h.replay
    unfold Activity.step at answered ⊢
    dsimp only at answered ⊢
    generalize (slot.step context 0 world).1 = after at replay answered ⊢
    generalize (slot.step context 0 world).2 = next at replay answered ⊢
    -- Of the four sections of a replay only the taking back of a lift ends with an error.
    cases replay with
    | lift => cases answered
    | pass => cases rest <;> cases answered
    | land => cases rest <;> cases answered
    | takeBack under refused _ _ journal =>
      cases answered
      obtain ⟨injection, last, refusal⟩ := h.taken.2 _ _ _ under
      exact ⟨injection, _, rfl, refusal.trans refused, journal ▸ last⟩
  | _ => cases release

end Alone

end Activity

/-! ### Calls one at a time -/

/-- A release with nothing to replay leaves the world as it is. -/
theorem World.ask_release_of_empty {world : World} (empty : world.inputs.pending = .empty)
    (session : Session) : world.ask session .release = (world, .result (.ok ())) := by
  have begun : world.start session .release = (world, .finished world.now (.result (.ok ()))) := by
    have same : world.withPending .empty = world := by
      rw [← empty]
      rfl
    rw [start, empty]
    exact Prod.ext same rfl
  have step : Schedule.step ⟨session, world, [.planned world.now .release]⟩ =
      ⟨session, world, [.finished world.now (.result (.ok ()))]⟩ := by
    have ready : (Activity.planned world.now .release).isReady world.now = true :=
      decide_eq_true (Nat.le_refl _)
    rw [Schedule.step, Schedule.stepFirst, if_pos ready, Activity.step, begun]
  have run : Schedule.run ⟨session, world, [.planned world.now .release]⟩ =
      ⟨session, world, [.finished world.now (.result (.ok ()))]⟩ := by
    rw [Schedule.run_of_live rfl, step, Schedule.run_of_finished rfl]
  rw [ask_of_run (congrArg Schedule.activities run), run]

namespace Schedule

/-- A call may join while no other is in progress; other requests may join at any time. -/
def OneByOne (schedule : Schedule) (request : Request) : Prop :=
  request.isCall = true → ∀ activity ∈ schedule.activities, activity.isCall = false

/-- The only call, if there is one, has been alone since it began. -/
def Sequential (schedule : Schedule) : Prop :=
  ∃ call : Activity, schedule.activities.filter (·.isCall) = [call].filter (·.isCall) ∧
    call.Alone schedule.world

namespace Sequential

variable {s next : Schedule}

theorem fresh (session : Session) (host : Host) :
    Sequential ⟨session, .initial host, []⟩ :=
  ⟨.sleeping 0, rfl, nofun, trivial, fun _ _ => Nat.le_refl 0, trivial⟩

/-- A call may begin on its own while no other is in progress. -/
theorem planned (h : s.Sequential) (quiet : ∀ activity ∈ s.activities, activity.isCall = false)
    (start : Nat) (request : Request) : (Activity.planned start request).Alone s.world := by
  obtain ⟨call, only, alone⟩ := h
  have none : s.activities.filter (·.isCall) = [] := by
    simpa [List.filter_eq_nil_iff] using quiet
  have other : call.isCall = false := by
    rw [none] at only
    simpa using only.symm
  exact alone.planned other start request

theorem join (h : s.Sequential) (start : Nat) {request : Request}
    (allowed : s.OneByOne request) : (s.join start request).Sequential := by
  cases isCall : request.isCall with
  | false =>
    obtain ⟨call, only, alone⟩ := h
    refine ⟨call, ?_, alone⟩
    rw [Schedule.join, List.filter_append, only]
    simp [Activity.isCall, isCall]
  | true =>
    have none : s.activities.filter (·.isCall) = [] := by
      simpa [List.filter_eq_nil_iff] using allowed isCall
    refine ⟨.planned start request, ?_, h.planned (allowed isCall) start request⟩
    rw [Schedule.join, List.filter_append, none, List.nil_append]

theorem move (h : s.Sequential) (moved : s.Moves next) : next.Sequential := by
  obtain ⟨call, only, alone⟩ := h
  cases moved with
  | elapse => exact ⟨call, only, alone.of_same rfl rfl⟩
  | @advance session world left activity right ready =>
    cases isCall : activity.isCall with
    | false =>
      -- Requests that are no calls touch neither the inputs nor the journal.
      obtain ⟨inputs, journal, other⟩ := Activity.step_of_isCall isCall session world
      refine ⟨call, ?_, alone.of_same inputs journal⟩
      simpa [isCall, other] using only
    | true =>
      rw [List.filter_append, List.filter_cons_of_pos isCall] at only
      cases callIs : call.isCall with
      | false => simp [callIs] at only
      | true =>
        -- There is one call at most, so the one that runs is it.
        obtain ⟨before, rfl, after⟩ : left.filter (·.isCall) = [] ∧ activity = call ∧
            right.filter (·.isCall) = [] := by
          simpa [callIs, List.append_eq_cons_iff] using only
        refine ⟨(activity.step session world).2, ?_, alone.step session ready⟩
        rw [List.filter_append, before, List.nil_append, ← List.singleton_append,
          List.filter_append, after, List.append_nil]

theorem reached {session : Session} {moves : Schedule → Schedule → Prop}
    (h : Reached session OneByOne moves s) : s.Sequential := by
  induction h with
  | fresh host => exact fresh session host
  | join start request _ allowed ih => exact ih.join start allowed
  | move _ moved _ ih => exact ih.move moved

/-- A call that is in progress has been alone since it began. -/
theorem alone (h : s.Sequential) {activity : Activity} (listed : activity ∈ s.activities)
    (isCall : activity.isCall = true) : activity.Alone s.world := by
  obtain ⟨call, only, alone⟩ := h
  have member : activity ∈ s.activities.filter (·.isCall) := List.mem_filter.mpr ⟨listed, isCall⟩
  rw [only] at member
  have same := List.mem_singleton.mp (List.mem_filter.mp member).1
  exact same ▸ alone

end Sequential

/-- Whenever a release answers ok, nothing is held, no flag is set and nothing is owed, and a
release right after it does nothing. Otherwise it answers with what the surface said about the last
event, which it refused. -/
theorem release_leaves_nothing_held {session : Session} {moves : Schedule → Schedule → Prop}
    {s : Schedule} (reached : Reached session OneByOne moves s) {activity : Activity}
    (listed : activity ∈ s.activities) (release : activity.isRelease = true)
    (ready : activity.isReady s.world.now = true) {time : Nat} {result : Except ActionError Unit}
    (answered : (activity.step s.session s.world).2 = .finished time (.result result)) :
    let after := (activity.step s.session s.world).1
    match result with
    | .ok () =>
      after.inputs.AtRest ∧ after.ask s.session .release = (after, .result (.ok ()))
    | .error error => ∃ injection refusal, error = .host refusal ∧
      injection.refusal = some refusal ∧ after.host.journal.getLast? = some injection := by
  have isCall : activity.isCall = true := by
    cases activity with
    | planned start request =>
      cases request <;> first | rfl | cases release
    | releasing => rfl
    | _ => cases release
  have alone := (Sequential.reached reached).alone listed isCall
  cases result with
  | ok _ =>
    obtain ⟨empty, up⟩ := alone.of_ok s.session ready release answered
    have agrees := (activity.step_turn s.session ready).agrees reached.agrees
    exact ⟨Inputs.atRest agrees up empty, World.ask_release_of_empty empty s.session⟩
  | error error => exact alone.of_error s.session release answered

/-- Whether the next section of an activity ends a release that answers ok. -/
def answersOk (schedule : Schedule) (activity : Activity) : Bool :=
  activity.isRelease && activity.isReady schedule.world.now &&
    match (activity.step schedule.session schedule.world).2 with
    | .finished _ (.result (.ok ())) => true
    | _ => false

/-- A fresh session on a surface that answers at once, asked to press a button. -/
def presses : Schedule :=
  join ⟨.ofConfig .standard, .initial (.prompt ⟨100, 100⟩), []⟩ 0
    (.perform [[⟨⟨"mouse"⟩, .pointer, none, .pointerDown 0⟩]] none)

/-- The same session in the last section of the release that follows. -/
def releases : Schedule := ((presses.steps 4).join 0 .release).steps 2

theorem reached_releases : Reached (.ofConfig .standard) OneByOne (fun _ _ => True) releases := by
  have free : ∀ s next : Schedule, (fun _ _ => True) s next := fun _ _ => trivial
  have begins : Reached (.ofConfig .standard) OneByOne (fun _ _ => True) presses :=
    .join 0 _ (.fresh _) fun _ _ member => absurd member List.not_mem_nil
  have allowed : (presses.steps 4).activities.all (fun activity => !activity.isCall) = true := by
    decide +kernel
  have alone : (presses.steps 4).OneByOne .release := fun _ activity member => by
    simpa using List.all_eq_true.mp allowed activity member
  exact ((begins.steps free 4).join 0 .release alone).steps free 2

/-- A button that a chain presses is up after the release that follows. -/
theorem release_after_press :
    (presses.steps 4).world.inputs.Holds ⟨"mouse"⟩ (.button 0) ∧
      ∃ activity ∈ releases.activities,
        (activity.step releases.session releases.world).1.inputs.AtRest := by
  have answers : releases.activities.any releases.answersOk = true := by decide +kernel
  obtain ⟨activity, listed, answer⟩ := List.any_eq_true.mp answers
  simp only [answersOk, Bool.and_eq_true] at answer
  obtain ⟨⟨release, ready⟩, answer⟩ := answer
  split at answer
  next answered =>
    exact ⟨by decide +kernel, activity, listed,
      (release_leaves_nothing_held reached_releases listed release ready answered).1⟩
  · cases answer

end Schedule

end InputActions
