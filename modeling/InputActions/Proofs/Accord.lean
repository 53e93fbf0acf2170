import InputActions.Proofs.Stray
import InputActions.Proofs.Telling

/-!
# What is held and what the surface saw

For one trigger the surface may have seen a press last while the session holds nothing, or the
other way round. The first does not happen once every call has its answer; the second happens in
one way only, when a refused lift is taken back although the surface has accepted another lift
meanwhile (`Schedule.Overtaken`). The taking back does not look at what happened since the lift.

`Explains` says what a section may do to a trigger together with what it tells of it. The rest is
an induction over the history of the session.
-/
namespace InputActions

/-! ### Notices of a trigger -/

/-- The trigger that a gesture presses or lifts. -/
def Gesture.trigger? (gesture : Gesture) : Option Trigger := gesture.pressed?.or gesture.lifted?

namespace Notice

/-- Whether a notice reports a press or a lift of a trigger. -/
def about (id : SourceId) (trigger : Trigger) (notice : Notice) : Bool :=
  notice.injection.source = id && notice.action.bind (·.gesture.trigger?) = some trigger

/-- Whether the surface accepted the event. -/
def accepted (notice : Notice) : Bool := notice.injection.refusal.isNone

/-- Whether the last event about a trigger that the surface accepted is a press. -/
def isDown (log : List Notice) (id : SourceId) (trigger : Trigger) : Bool :=
  match (log.filter fun notice => notice.accepted && notice.about id trigger).getLast? with
  | some notice => notice.injection.event.presses
  | none => false

variable {id : SourceId} {trigger : Trigger} {log told : List Notice}

theorem isDown_append_of_quiet
    (quiet : ∀ notice ∈ told, (notice.accepted && notice.about id trigger) = false) :
    isDown (log ++ told) id trigger = isDown log id trigger := by
  have none : (told.filter fun notice => notice.accepted && notice.about id trigger) = [] := by
    rw [List.filter_eq_nil_iff]
    intro notice member
    rw [quiet notice member]
    exact Bool.false_ne_true
  rw [isDown, List.filter_append, none, List.append_nil, isDown]

theorem isDown_concat {notice : Notice} (accepted : notice.accepted = true)
    (about : notice.about id trigger = true) :
    isDown (log ++ [notice]) id trigger = notice.injection.event.presses := by
  simp [isDown, accepted, about]

theorem about_iff {action : Action} {injection : Injection} {lifted : Trigger}
    (source : injection.source = action.id) (meant : action.gesture.trigger? = some lifted)
    (id : SourceId) (trigger : Trigger) :
    about id trigger ⟨some action, injection⟩ = true ↔ id = action.id ∧ trigger = lifted := by
  simp only [about, source, Option.bind_some, meant, Bool.and_eq_true, decide_eq_true_eq,
    Option.some.injEq]
  rw [eq_comm, eq_comm (a := lifted)]

end Notice

theorem Gesture.trigger?_of_pressed {gesture : Gesture} {trigger : Trigger}
    (h : gesture.pressed? = some trigger) : gesture.trigger? = some trigger := by
  rw [trigger?, h, Option.some_or]

theorem Gesture.trigger?_of_lifted {gesture : Gesture} {trigger : Trigger}
    (h : gesture.lifted? = some trigger) : gesture.trigger? = some trigger := by
  cases gesture <;> first | exact h | cases h

/-! ### Sections -/

/-- What can happen to a trigger while the surface is told some things: whether it is held, and how
many refused lifts of it are under way, before and after. -/
inductive Explains (id : SourceId) (trigger : Trigger) (told : List Notice) (held : Bool)
    (refused : Nat) (held' : Bool) (refused' : Nat) : Prop
  | quiet (silent : ∀ notice ∈ told, notice.about id trigger = false) (same : held' = held)
      (kept : refused' = refused)
  | press {notice} (one : told = [notice]) (about : notice.about id trigger = true)
      (presses : notice.injection.event.presses = true) (down : held' = true)
      (kept : refused' = refused)
  | lift {notice} (one : told = [notice]) (about : notice.about id trigger = true)
      (lifts : notice.injection.event.presses = false) (accepted : notice.accepted = true)
      (was : held = true) (up : held' = false) (kept : refused' = refused)
  | refuse {notice} (one : told = [notice]) (about : notice.about id trigger = true)
      (denied : notice.accepted = false) (was : held = true) (up : held' = false)
      (more : refused' = refused + 1)
  | takeBack (silent : told = []) (down : held' = true) (fewer : refused = refused' + 1)

theorem Explains.add {id : SourceId} {trigger : Trigger} {told : List Notice}
    {held held' : Bool} {refused refused' : Nat}
    (h : Explains id trigger told held refused held' refused') (others : Nat) :
    Explains id trigger told held (refused + others) held' (refused' + others) := by
  cases h with
  | quiet silent same kept => exact .quiet silent same (by rw [kept])
  | press one about presses down kept => exact .press one about presses down (by rw [kept])
  | lift one about lifts accepted was up kept =>
    exact .lift one about lifts accepted was up (by rw [kept])
  | refuse one about denied was up more => exact .refuse one about denied was up (by omega)
  | takeBack silent down fewer => exact .takeBack silent down (by omega)

namespace Slot

variable {slot : Slot} {context : Context} {duration : UInt64} {world : World}

/-- Only the first section of an action is about a trigger. -/
private theorem quiet_of_begun (begun : slot.action? = none) (id : SourceId) (trigger : Trigger) :
    ∀ notice ∈ slot.notices context duration world, notice.about id trigger = false := by
  intro notice member
  obtain ⟨injection, -, rfl⟩ := List.mem_map.mp member
  simp [Notice.about, begun]

variable {id : SourceId} {trigger : Trigger}

private theorem explains_quiet (silent : ∀ notice ∈ slot.notices context duration world,
      notice.about id trigger = false)
    (holds : (slot.step context duration world).1.inputs.Holds id trigger ↔
      world.inputs.Holds id trigger)
    (kept : (slot.step context duration world).2.refuses id trigger = slot.refuses id trigger) :
    Explains id trigger (slot.notices context duration world)
      (decide (world.inputs.Holds id trigger)) (slot.refuses id trigger).toNat
      (decide ((slot.step context duration world).1.inputs.Holds id trigger))
      ((slot.step context duration world).2.refuses id trigger).toNat :=
  .quiet silent (decide_eq_decide.mpr holds) (by rw [kept])

/-! A section is about one trigger of one source at most; of every other one it is quiet. -/

section
variable {before after : Inputs} {platform : Platform} {action : Action} {injection : Injection}
  {lifted : Trigger} {verdict : Verdict}

private theorem explains_press (faithful : Notice.Faithful platform ⟨some action, injection⟩)
    (pressed : action.gesture.pressed? = some lifted)
    (holds : after.Holds id trigger ↔
      (id = action.id ∧ trigger = lifted) ∨ before.Holds id trigger) :
    Explains id trigger [⟨some action, injection⟩] (decide (before.Holds id trigger)) 0
      (decide (after.Holds id trigger)) 0 := by
  obtain ⟨named, tells⟩ := faithful
  have about := Notice.about_iff named (Gesture.trigger?_of_pressed pressed) id trigger
  by_cases same : id = action.id ∧ trigger = lifted
  · have presses := tells.presses_iff.mpr (by simp [pressed])
    exact .press rfl (about.mpr same) presses (decide_eq_true (holds.mpr (Or.inl same))) rfl
  · have other := Bool.eq_false_iff.mpr fun is => same (about.mp is)
    exact .quiet (List.forall_mem_singleton.mpr other)
      (decide_eq_decide.mpr (holds.trans (or_iff_right same))) rfl

private theorem explains_lift (faithful : Notice.Faithful platform ⟨some action, injection⟩)
    (lifts : action.gesture.lifted? = some lifted) (held : before.Holds action.id lifted)
    (under : slot.lift? = some (action.id, lifted, verdict))
    (refusal : injection.refusal = verdict.refusal)
    (holds : after.Holds id trigger ↔
      ¬ (id = action.id ∧ trigger = lifted) ∧ before.Holds id trigger) :
    Explains id trigger [⟨some action, injection⟩] (decide (before.Holds id trigger)) 0
      (decide (after.Holds id trigger)) (slot.refuses id trigger).toNat := by
  obtain ⟨named, tells⟩ := faithful
  have about := Notice.about_iff named (Gesture.trigger?_of_lifted lifts) id trigger
  have refuses := Slot.refuses_iff under id trigger
  by_cases same : id = action.id ∧ trigger = lifted
  · have down : before.Holds id trigger := by
      rw [same.1, same.2]
      exact held
    have up := decide_eq_false fun h => (holds.mp h).1 same
    have silent : injection.event.presses = false := by
      rw [Bool.eq_false_iff, ne_eq, tells.presses_iff, not_not]
      cases gesture : action.gesture <;> rw [gesture] at lifts <;>
        first | rfl | cases lifts
    -- A refused lift is not seen, and will be taken back.
    cases denied : verdict.refusal with
    | none =>
      refine .lift rfl (about.mpr same) silent ?_ (decide_eq_true down) up ?_
      · simp [Notice.accepted, refusal, denied]
      · simp [Bool.eq_false_iff.mpr fun h => by simpa [denied] using (refuses.mp h).2]
    | some error =>
      refine .refuse rfl (about.mpr same) ?_ (decide_eq_true down) up ?_
      · simp [Notice.accepted, refusal, denied]
      · simp [refuses.mpr ⟨same, by simp [denied]⟩]
  · have other := Bool.eq_false_iff.mpr fun is => same (about.mp is)
    have none := Bool.eq_false_iff.mpr fun h => same (refuses.mp h).1
    exact .quiet (List.forall_mem_singleton.mpr other)
      (decide_eq_decide.mpr (holds.trans (and_iff_right same))) (by simp [none])

private theorem explains_takeBack {source : SourceId} {error : HostError}
    (under : slot.lift? = some (source, lifted, verdict)) (refused : verdict.refusal = some error)
    (holds : after.Holds id trigger ↔
      (id = source ∧ trigger = lifted) ∨ before.Holds id trigger) :
    Explains id trigger [] (decide (before.Holds id trigger)) (slot.refuses id trigger).toNat
      (decide (after.Holds id trigger)) 0 := by
  have refuses := Slot.refuses_iff under id trigger
  by_cases same : id = source ∧ trigger = lifted
  · have counted := refuses.mpr ⟨same, by simp [refused]⟩
    exact .takeBack rfl (decide_eq_true (holds.mpr (Or.inl same))) (by simp [counted])
  · have none := Bool.eq_false_iff.mpr fun h => same (refuses.mp h).1
    exact .quiet (fun _ member => absurd member List.not_mem_nil)
      (decide_eq_decide.mpr (holds.trans (or_iff_right same))) (by simp [none])

end

/-- Every section explains what it does to a trigger, if the sources of the lifts under way are
there to take them back. -/
theorem step_explains (slot : Slot) (context : Context) (duration : UInt64) (world : World)
    (rooted : ∀ source lifted verdict, slot.lift? = some (source, lifted, verdict) →
      world.inputs.store.held? source lifted ≠ none) (id : SourceId) (trigger : Trigger) :
    Explains id trigger (slot.notices context duration world)
      (decide (world.inputs.Holds id trigger)) (slot.refuses id trigger).toNat
      (decide ((slot.step context duration world).1.inputs.Holds id trigger))
      ((slot.step context duration world).2.refuses id trigger).toNat := by
  have turn := slot.step_turn context duration world
  have quiet := @explains_quiet slot context duration world id trigger
  have silent := @notices_of_silent slot context duration world
  have told := @notices_of_told slot context duration world
  have begun := @quiet_of_begun slot context duration world
  generalize (slot.step context duration world).1 = after at *
  generalize (slot.step context duration world).2 = next at *
  generalize slot.notices context duration world = notices at *
  cases turn with
  | @press action lifted source stored _ wake wait pressed _ found holds inputs free journal =>
    obtain ⟨injection, journal⟩ := journal
    obtain ⟨rfl, faithful⟩ := told journal
    have holds := inputs ▸ Inputs.holds_hold found holds _ id trigger
    have free : (Slot.waiting wake wait).lift? = none := free
    rw [Slot.refuses_of_none free]
    exact explains_press faithful pressed holds
  | @lift action lifted source stored _ wake wait verdict injection isLift found held lifts inputs
      under journal refusal =>
    obtain ⟨rfl, faithful⟩ := told journal
    have holds := inputs ▸ Inputs.holds_lift found lifts world.inputs.pending id trigger
    have down : world.inputs.Holds action.id lifted := (Inputs.holds_iff found _).mpr held
    exact explains_lift faithful isLift down under refusal holds
  | pass => exact quiet (by simp [silent rfl]) Iff.rfl rfl
  | deny => exact quiet (by simp [silent rfl]) Iff.rfl rfl
  | @takeBack wake wait other lifted verdict _ _ _ _ under refused found holds inputs journal =>
    have holds := inputs ▸ Inputs.holds_hold found holds world.inputs.pending id trigger
    have under : (Slot.waiting wake wait).lift? = some (other, lifted, verdict) := under
    rw [silent journal]
    exact explains_takeBack under refused holds
  | lose under refused missing => exact absurd missing (rooted _ _ _ under)
  | @land wake wait other lifted verdict _ under accepted inputs journal =>
    have under : (Slot.waiting wake wait).lift? = some (other, lifted, verdict) := under
    refine quiet (by simp [silent journal]) (by rw [inputs]) ?_
    exact (Bool.eq_false_iff.mpr fun h => by
      simpa [accepted] using ((Slot.refuses_iff under id trigger).mp h).2).symm
  | @arrive wake wait other s target _ _ found inputs idle free =>
    have idle : (Slot.waiting wake wait).lift? = none := idle
    refine quiet (begun rfl id trigger) (inputs ▸ Inputs.holds_position found target id trigger) ?_
    rw [Slot.refuses_of_none idle, Slot.refuses_of_none free]
  | still inputs other idle free still =>
    refine quiet ?_ (by rw [inputs]) ?_
    · cases slot with
      | ready action => simp [silent (still action rfl)]
      | _ => exact begun rfl id trigger
    · rw [Slot.refuses_of_none idle, Slot.refuses_of_none free]

end Slot

/-! ### Lifts that can be taken back -/

theorem Store.held?_ne_none_of_kinds {store next : Store}
    (kinds : ∀ id kind, store.kind? id = some kind → next.kind? id = some kind) {id : SourceId}
    {trigger : Trigger} (h : store.held? id trigger ≠ none) : next.held? id trigger ≠ none := by
  rw [held?_eq] at h ⊢
  cases found : store[id]? with
  | none => simp [found] at h
  | some source =>
    obtain ⟨other, found', same⟩ := Option.map_eq_some_iff.mp
      (kinds id source.kind (by rw [kind?, found, Option.map_some]))
    rw [found, Option.bind_some] at h
    rw [found', Option.bind_some]
    -- The kind of a source decides which triggers it knows.
    cases source <;> cases other <;> cases trigger <;>
      simp_all [Source.held?, Source.kind]

/-- Whether the sources of lifts under way are there, and know what was lifted. -/
def Store.Roots (store : Store) (lifts : List (SourceId × Trigger × Verdict)) : Prop :=
  ∀ source trigger verdict, (source, trigger, verdict) ∈ lifts →
    store.held? source trigger ≠ none

theorem Store.Roots.of_kinds {store next : Store} {lifts : List (SourceId × Trigger × Verdict)}
    (h : store.Roots lifts)
    (kinds : ∀ id kind, store.kind? id = some kind → next.kind? id = some kind) :
    next.Roots lifts :=
  fun _ _ _ member => held?_ne_none_of_kinds kinds (h _ _ _ member)

/-- What is lifted is lifted on a source that knows it. -/
theorem Slot.Turn.root {before after : World} {slot next : Slot}
    (h : slot.Turn before after next) {source : SourceId} {trigger : Trigger} {verdict : Verdict}
    (under : next.lift? = some (source, trigger, verdict)) :
    after.inputs.store.held? source trigger ≠ none := by
  have kinds : ∀ id kind, before.inputs.store.kind? id = some kind →
      after.inputs.store.kind? id = some kind := fun id _ known => (h.kind? id).trans known
  cases h with
  | press _ _ _ _ _ free => exact nomatch under.symm.trans free
  | lift _ found held _ _ under' =>
    cases under.symm.trans under'
    apply Store.held?_ne_none_of_kinds kinds
    rw [Store.held?_eq, found, Option.bind_some, held]
    exact nofun
  | arrive _ _ _ free => exact nomatch under.symm.trans free
  | still _ _ _ free => exact nomatch under.symm.trans free
  | _ => cases under

namespace Activity

theorem mem_lifts {activity : Activity} {slot : Slot} (listed : slot ∈ activity.slots)
    {lift : SourceId × Trigger × Verdict} (under : slot.lift? = some lift) :
    lift ∈ activity.lifts :=
  List.mem_filterMap.mpr ⟨slot, listed, under⟩

/-- The lifts under way after a section were so before, or it has just made them. -/
theorem step_roots {activity : Activity} (session : Session) {world : World}
    (ready : activity.isReady world.now = true)
    (roots : world.inputs.store.Roots activity.lifts) :
    (activity.step session world).1.inputs.store.Roots (activity.step session world).2.lifts := by
  cases activity.step_ran session ready with
  | idle _ _ after =>
    rw [after]
    exact fun _ _ _ member => absurd member List.not_mem_nil
  | @slot slot context duration left right listed _ _ store _ lifts =>
    have turn := slot.step_turn context duration world
    rw [lifts, store]
    intro source trigger verdict member
    obtain ⟨other, place, under⟩ := List.mem_filterMap.mp member
    have old (place : other ∈ activity.slots) :
        (slot.step context duration world).1.inputs.store.held? source trigger ≠ none :=
      Store.held?_ne_none_of_kinds (fun id _ known => (turn.kind? id).trans known)
        (roots _ _ _ (mem_lifts place under))
    simp only [List.mem_append, List.mem_cons] at place
    rcases place with before | rfl | after
    · exact old (by simp [listed, before])
    · exact turn.root under
    · exact old (by simp [listed, after])

private theorem countP_refuses (slots : List Slot) (id : SourceId) (trigger : Trigger) :
    slots.countP (·.refuses id trigger) = (slots.filterMap (·.lift?)).countP
      fun (source, lifted, verdict) =>
        source = id && lifted = trigger && verdict.refusal.isSome := by
  induction slots with
  | nil => rfl
  | cons slot slots ih =>
    rw [List.countP_cons, ih]
    cases under : slot.lift? with
    | none =>
      rw [List.filterMap_cons_none under, Slot.refuses_of_none under]
      rfl
    | some lift =>
      rw [List.filterMap_cons_some under, List.countP_cons, Slot.refuses, under]

/-- Every section of an activity explains what it does to a trigger. -/
theorem step_explains {activity : Activity} (session : Session) {world : World}
    (ready : activity.isReady world.now = true) (kept : activity.isReset = false)
    (roots : world.inputs.store.Roots activity.lifts) (id : SourceId) (trigger : Trigger) :
    Explains id trigger (activity.notices session world)
      (decide (world.inputs.Holds id trigger)) (activity.slots.countP (·.refuses id trigger))
      (decide ((activity.step session world).1.inputs.Holds id trigger))
      ((activity.step session world).2.slots.countP (·.refuses id trigger)) := by
  cases activity.step_ran session ready with
  | idle silent before after holds =>
    refine .quiet ?_ (decide_eq_decide.mpr (holds kept id trigger)) ?_
    · rw [notices_of_silent silent]
      exact fun _ member => absurd member List.not_mem_nil
    · rw [countP_refuses, countP_refuses, ← lifts, ← lifts, before, after]
  | @slot slot context duration left right listed _ running store host after =>
    have root : ∀ source lifted verdict, slot.lift? = some (source, lifted, verdict) →
        world.inputs.store.held? source lifted ≠ none := fun _ _ _ under =>
      roots _ _ _ (mem_lifts (by simp [listed]) under)
    have own := (slot.step_explains context duration world root id trigger).add
      ((left ++ right).countP (·.refuses id trigger))
    -- The other slots of the activity are as they were, so its section does what this slot does.
    have whole : ∀ slot : Slot, (left ++ slot :: right).countP (·.refuses id trigger) =
        (slot.refuses id trigger).toNat + (left ++ right).countP (·.refuses id trigger) := by
      intro slot
      cases refuses : slot.refuses id trigger <;>
        simp [refuses, Nat.add_comm, Nat.add_left_comm]
    have held : decide ((activity.step session world).1.inputs.Holds id trigger) =
        decide ((slot.step context duration world).1.inputs.Holds id trigger) :=
      decide_eq_decide.mpr (by unfold Inputs.Holds; rw [store])
    rw [notices_of_running running host, held, countP_refuses,
      countP_refuses (activity.step session world).2.slots, ← lifts, ← lifts, after, lifts, listed,
      ← countP_refuses, ← countP_refuses, whole, whole]
    exact own

end Activity

/-! ### Histories -/

namespace Schedule

variable {session : Session} {host : Host} {joins : Schedule → Request → Prop}
  {moves : Schedule → Schedule → Prop} {start s next : Schedule} {log : List Notice}
  {id : SourceId} {trigger : Trigger}

/-- Nothing is about to be forgotten, and every lift under way can be taken back. -/
structure Rooted (schedule : Schedule) : Prop where
  kept : ¬ schedule.Resets
  roots : ∀ activity ∈ schedule.activities,
    schedule.world.inputs.store.Roots activity.lifts

namespace Rooted

theorem fresh (session : Session) (host : Host) : Rooted ⟨session, .initial host, []⟩ where
  kept := not_resets_of_idle rfl
  roots _ listed := absurd listed List.not_mem_nil

theorem join (h : s.Rooted) (instant : Nat) {request : Request} (kept : s.Remembers request) :
    (s.join instant request).Rooted where
  kept := kept.not_resets h.kept instant
  roots activity listed := by
    rcases List.mem_append.mp listed with old | new
    · exact h.roots activity old
    · rw [List.mem_singleton.mp new]
      exact fun _ _ _ member => absurd member List.not_mem_nil

theorem isReset {world : World} {left right : List Activity} {activity : Activity}
    (h : Rooted ⟨session, world, left ++ activity :: right⟩) : activity.isReset = false := by
  by_contra resets
  exact h.kept ⟨activity, by simp, by simpa using resets⟩

theorem move (h : s.Rooted) (moved : s.Moves next) : next.Rooted where
  kept := moved.not_resets h.kept
  roots := by
    cases moved with
    | elapse => exact h.roots
    | @advance session world left activity right ready =>
      have turn := activity.step_turn session ready
      have kept (other : Activity) (listed : other ∈ left ++ activity :: right) :=
        (h.roots other listed).of_kinds fun _ _ => turn.kind? h.isReset
      intro other listed
      simp only [List.mem_append, List.mem_cons] at listed
      rcases listed with before | rfl | after
      · exact kept other (by simp [before])
      · exact activity.step_roots session ready (h.roots activity (by simp))
      · exact kept other (by simp [after])

/-- Every section of a schedule explains what it does to a trigger. -/
theorem explains {world : World} {left right : List Activity} {activity : Activity}
    (h : Rooted ⟨session, world, left ++ activity :: right⟩)
    (ready : activity.isReady world.now = true) (id : SourceId) (trigger : Trigger) :
    let before : Schedule := ⟨session, world, left ++ activity :: right⟩
    let after : Schedule := ⟨session, (activity.step session world).1,
      left ++ (activity.step session world).2 :: right⟩
    Explains id trigger (activity.notices session world)
      (before.standing id trigger).held (before.standing id trigger).refused
      (after.standing id trigger).held (after.standing id trigger).refused := by
  have own := (activity.step_explains session ready h.isReset (h.roots activity (by simp)) id
    trigger).add ((left.flatMap (·.slots) ++ right.flatMap (·.slots)).countP
      (·.refuses id trigger))
  have whole : ∀ activity : Activity,
      ((left ++ activity :: right).flatMap (·.slots)).countP (·.refuses id trigger) =
        activity.slots.countP (·.refuses id trigger) +
          (left.flatMap (·.slots) ++ right.flatMap (·.slots)).countP (·.refuses id trigger) := by
    intro activity
    simp only [List.flatMap_append, List.flatMap_cons, List.countP_append]
    omega
  dsimp only [standing, World.standing]
  rw [whole, whole]
  exact own

end Rooted

theorem Unfolds.rooted (h : Unfolds Remembers moves start s log) (rooted : start.Rooted) :
    s.Rooted := by
  induction h with
  | begins => exact rooted
  | join _ instant _ allowed ih => exact ih.join instant allowed
  | elapse _ later _ ih => exact ih.move (.elapse later)
  | advance _ ready _ ih => exact ih.move (.advance ready)

/-- The histories of a fresh session that forgets nothing. -/
abbrev Recalls (session : Session) (host : Host) : Schedule → List Notice → Prop :=
  Unfolds Remembers (fun _ _ => True) ⟨session, .initial host, []⟩

/-- The history of a trigger that is held although the surface saw it lifted: a refused lift was
taken back when the last event that the surface had accepted was no press, and nothing was told of
the trigger since. -/
inductive Overtaken (session : Session) (host : Host) (id : SourceId) (trigger : Trigger)
    (s : Schedule) (log : List Notice) : Prop
  | intro {before after early late} (first : Recalls session host before early)
      (moved : before.Moves after)
      (back : (after.standing id trigger).refused < (before.standing id trigger).refused)
      (up : Notice.isDown early id trigger = false)
      (rest : Unfolds Remembers (fun _ _ => True) after s late) (whole : log = early ++ late)
      (quiet : ∀ notice ∈ late, notice.about id trigger = false)

/-- No trigger is lifted while a refused lift of it is under way. -/
def Patient (s next : Schedule) : Prop :=
  ∀ id trigger, s.world.inputs.Holds id trigger → ¬ next.world.inputs.Holds id trigger →
    (s.standing id trigger).refused = 0

theorem held_eq_true_iff : (s.standing id trigger).held = true ↔ s.world.inputs.Holds id trigger :=
  decide_eq_true_iff

/-- A press that the surface saw last is held, or is so again when its refused lifts are taken
back. -/
theorem Unfolds.held_of_isDown (h : Unfolds Remembers moves ⟨session, .initial host, []⟩ s log)
    (accepted : ∀ notice ∈ log, notice.injection.event.presses = true → notice.accepted = true)
    (down : Notice.isDown log id trigger = true) :
    (s.standing id trigger).held = true ∨ 0 < (s.standing id trigger).refused := by
  induction h with
  | begins => cases down
  | join _ _ _ _ ih =>
    rw [standing_join]
    exact ih accepted down
  | elapse _ _ _ ih => exact ih accepted down
  | @advance _ world left activity right log before ready _ ih =>
    have explains := (before.rooted (.fresh session host)).explains ready id trigger
    have accepted' := fun notice member => accepted notice (List.mem_append_left _ member)
    cases explains with
    | quiet silent same kept =>
      rw [Notice.isDown_append_of_quiet (by simp +contextual [silent])] at down
      rw [same, kept]
      exact ih accepted' down
    | press _ _ _ held => exact Or.inl held
    | lift one about lifts seen =>
      -- The surface saw a lift last, which contradicts the press.
      rw [one, Notice.isDown_concat seen about, lifts] at down
      cases down
    | refuse _ _ _ _ _ more => exact Or.inr (by omega)
    | takeBack _ held => exact Or.inl held

/-- As long as lifts wait for refused ones, what is held was seen pressed last. -/
theorem Unfolds.isDown_of_patient
    (h : Unfolds Remembers Patient ⟨session, .initial host, []⟩ s log)
    (accepted : ∀ notice ∈ log, notice.injection.event.presses = true → notice.accepted = true)
    (held : (s.standing id trigger).held = true ∨ 0 < (s.standing id trigger).refused) :
    Notice.isDown log id trigger = true := by
  induction h with
  | begins =>
    rcases held with held | refused
    · exact absurd (held_eq_true_iff.mp held) (not_holds_fresh id trigger)
    · cases refused
  | join _ _ _ _ ih =>
    rw [standing_join] at held
    exact ih accepted held
  | elapse _ _ _ ih => exact ih accepted held
  | @advance _ world left activity right log before ready patient ih =>
    have explains := (before.rooted (.fresh session host)).explains ready id trigger
    have ih := ih fun notice member => accepted notice (List.mem_append_left _ member)
    cases explains with
    | quiet silent same kept =>
      rw [Notice.isDown_append_of_quiet (by simp +contextual [silent])]
      rw [same, kept] at held
      exact ih held
    | press one about presses =>
      have seen := accepted _ (List.mem_append_right _ (by rw [one]; exact List.mem_cons_self))
        presses
      rw [one, Notice.isDown_concat seen about, presses]
    | lift _ _ _ _ was up kept =>
      -- The trigger is up now, and no refused lift of it was under way.
      have none := patient id trigger (held_eq_true_iff.mp was)
        fun down => nomatch up.symm.trans (held_eq_true_iff.mpr down)
      rcases held with held | refused
      · exact nomatch up.symm.trans held
      · omega
    | refuse one _ denied was =>
      rw [Notice.isDown_append_of_quiet (by simp [one, denied])]
      exact ih (Or.inl was)
    | takeBack silent _ fewer =>
      rw [silent, List.append_nil]
      exact ih (Or.inr (by omega))

/-- A trigger of which nothing is told stays held. -/
theorem Unfolds.held_of_quiet (h : Unfolds Remembers moves start s log) (rooted : start.Rooted)
    (held : (start.standing id trigger).held = true)
    (quiet : ∀ notice ∈ log, notice.about id trigger = false) :
    (s.standing id trigger).held = true := by
  induction h with
  | begins => exact held
  | join _ _ _ _ ih =>
    rw [standing_join]
    exact ih quiet
  | elapse _ _ _ ih => exact ih quiet
  | @advance _ world left activity right log before ready _ ih =>
    have ih := ih fun notice member => quiet notice (List.mem_append_left _ member)
    have silent {notice : Notice} (one : activity.notices _ world = [notice]) :
        notice.about id trigger = false :=
      quiet notice (List.mem_append_right _ (by rw [one]; exact List.mem_cons_self))
    cases (before.rooted rooted).explains ready id trigger with
    | quiet _ same => exact same.trans ih
    | press one about => exact nomatch about.symm.trans (silent one)
    | lift one about => exact nomatch about.symm.trans (silent one)
    | refuse one about => exact nomatch about.symm.trans (silent one)
    | takeBack _ held => exact held

/-- Where a trigger is held that the surface saw lifted last, a refused lift was taken back. -/
theorem Unfolds.overtaken (h : Recalls session host s log)
    (accepted : ∀ notice ∈ log, notice.injection.event.presses = true → notice.accepted = true)
    (held : (s.standing id trigger).held = true) (up : Notice.isDown log id trigger = false) :
    Overtaken session host id trigger s log := by
  induction h with
  | begins => exact absurd (held_eq_true_iff.mp held) (not_holds_fresh id trigger)
  | join _ instant request allowed ih =>
    rw [standing_join] at held
    obtain ⟨first, moved, back, was, rest, whole, quiet⟩ := ih accepted held up
    exact .intro first moved back was (rest.join instant request allowed) whole quiet
  | elapse _ later _ ih =>
    obtain ⟨first, moved, back, was, rest, whole, quiet⟩ := ih accepted held up
    exact .intro first moved back was (rest.elapse later trivial) whole quiet
  | @advance _ world left activity right log before ready _ ih =>
    have explains := (before.rooted (.fresh session host)).explains ready id trigger
    have ih := ih fun notice member => accepted notice (List.mem_append_left _ member)
    cases explains with
    | quiet silent same =>
      rw [Notice.isDown_append_of_quiet (by simp +contextual [silent])] at up
      obtain ⟨first, moved, back, was, rest, whole, quiet⟩ := ih (same.symm.trans held) up
      refine .intro first moved back was (rest.advance ready trivial) ?_ ?_
      · rw [whole, List.append_assoc]
      · intro notice member
        rcases List.mem_append.mp member with old | new
        · exact quiet notice old
        · exact silent notice new
    | press one about presses =>
      have seen := accepted _ (List.mem_append_right _ (by rw [one]; exact List.mem_cons_self))
        presses
      rw [one, Notice.isDown_concat seen about, presses] at up
      cases up
    | lift _ _ _ _ _ lifted => exact nomatch lifted.symm.trans held
    | refuse _ _ _ _ lifted => exact nomatch lifted.symm.trans held
    | takeBack silent _ fewer =>
      -- This section is the one that takes the lift back; nothing has happened since.
      rw [silent, List.append_nil] at up ⊢
      exact .intro before (.advance ready) (by omega) up .begins (List.append_nil log).symm
        fun _ member => absurd member List.not_mem_nil

/-- A trigger whose lift was taken back too late is held, and the surface saw it lifted last. -/
theorem Overtaken.held (h : Overtaken session host id trigger s log) :
    (s.standing id trigger).held = true ∧ Notice.isDown log id trigger = false := by
  obtain ⟨first, moved, back, up, rest, rfl, quiet⟩ := h
  have rooted := first.rooted (.fresh session host)
  -- Taking the lift back made the trigger held, and nothing that was told since is about it.
  refine ⟨rest.held_of_quiet (rooted.move moved) ?_ quiet, ?_⟩
  · cases moved with
    | elapse => exact absurd back (Nat.lt_irrefl _)
    | advance ready =>
      -- Fewer refused lifts are under way only after one was taken back.
      cases rooted.explains ready id trigger with
      | takeBack _ held => exact held
      | _ => omega
  · rw [Notice.isDown_append_of_quiet (by simp +contextual [quiet])]
    exact up

/-- Once every call has its answer, a trigger whose last accepted event is a press is held, if no
press was refused. What is held agrees with what the surface saw unless a refused lift was taken
back too late, and always if lifts wait until none of the same trigger can be refused. -/
theorem held_iff_pressed_unless_overtaken (h : Recalls session host s log)
    (accepted : ∀ notice ∈ log, notice.injection.event.presses = true → notice.accepted = true)
    (finished : s.isFinished = true) (id : SourceId) (trigger : Trigger) :
    (Notice.isDown log id trigger = true → s.world.inputs.Holds id trigger) ∧
      ((s.world.inputs.Holds id trigger ↔ Notice.isDown log id trigger = true) ↔
        ¬ Overtaken session host id trigger s log) ∧
      (Unfolds Remembers Patient ⟨session, .initial host, []⟩ s log →
        (s.world.inputs.Holds id trigger ↔ Notice.isDown log id trigger = true)) := by
  have none : (s.standing id trigger).refused = 0 := by
    rw [standing_of_finished finished]
    rfl
  have pressed (down : Notice.isDown log id trigger = true) :
      s.world.inputs.Holds id trigger := by
    rcases h.held_of_isDown accepted down with held | refused
    · exact held_eq_true_iff.mp held
    · omega
  refine ⟨pressed, ⟨fun agrees overtaken => ?_, fun free => ⟨fun held => ?_, pressed⟩⟩,
    fun patient => ⟨fun held => ?_, pressed⟩⟩
  · obtain ⟨held, up⟩ := overtaken.held
    exact nomatch up.symm.trans (agrees.mp (held_eq_true_iff.mp held))
  · by_contra up
    exact free (h.overtaken accepted (held_eq_true_iff.mpr held) (by simpa using up))
  · exact patient.isDown_of_patient accepted (Or.inl (held_eq_true_iff.mpr held))

/-- A fresh session whose surface refuses its second event, asked to press a button. -/
def pressing : Schedule :=
  join ⟨.ofConfig .standard, .initial refusesSecond, []⟩ 0 (performs (.pointerDown 0))

/-- A lift, a press and another lift of the button in one tick. -/
def overlap : Request :=
  let gestures := [Gesture.pointerUp 0, .pointerDown 0, .pointerUp 0]
  .perform [gestures.map (⟨⟨"mouse"⟩, .pointer, none, ·⟩)] none

/-- The same session with such a tick: the refusal of the first lift comes after the second. -/
def overlaps : Schedule := (pressing.steps 5).join 5 overlap

/-- The button is held although the last event that the surface accepted is its lift. -/
theorem overlaps_overtaken :
    let log := pressing.record 5 ++ overlaps.record 9
    Recalls (.ofConfig .standard) refusesSecond (overlaps.steps 9) log ∧
      (overlaps.steps 9).world.inputs.Holds ⟨"mouse"⟩ (.button 0) ∧
      Notice.isDown log ⟨"mouse"⟩ (.button 0) = false ∧
      Overtaken (.ofConfig .standard) refusesSecond ⟨"mouse"⟩ (.button 0) (overlaps.steps 9)
        log := by
  intro log
  have free : ∀ s next : Schedule, True := fun _ _ => trivial
  have fresh : Recalls (.ofConfig .standard) refusesSecond
    ⟨.ofConfig .standard, .initial refusesSecond, []⟩ [] := .begins
  have begun := (fresh.join 0 (performs (.pointerDown 0)) rfl).steps free 5
  rw [List.nil_append] at begun
  have recalls : Recalls (.ofConfig .standard) refusesSecond (overlaps.steps 9) log :=
    (begun.join 5 overlap rfl).steps free 9
  have accepted : (log.all fun notice =>
      !notice.injection.event.presses || notice.accepted) = true := by decide +kernel
  have finished : (overlaps.steps 9).isFinished = true := by decide +kernel
  have held : (overlaps.steps 9).world.inputs.Holds ⟨"mouse"⟩ (.button 0) := by decide +kernel
  have up : Notice.isDown log ⟨"mouse"⟩ (.button 0) = false := by decide +kernel
  refine ⟨recalls, held, up, ?_⟩
  by_contra free
  have agrees := (held_iff_pressed_unless_overtaken recalls (fun notice member presses => by
    simpa [presses] using List.all_eq_true.mp accepted notice member) finished ⟨"mouse"⟩
    (.button 0)).2.1.mpr free
  exact Bool.false_ne_true (up.symm.trans (agrees.mp held))

end Schedule

end InputActions
