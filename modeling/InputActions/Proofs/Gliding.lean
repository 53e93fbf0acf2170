import InputActions.Proofs.Reaching
import InputActions.Proofs.Resuming
import Mathlib.Data.List.Chain

/-!
# Moves travel towards their targets

A later sample of a move lies between an earlier one and the target (`Motion.interpolate_onward`),
and the last step of a move leads to the target itself. So the events of a move lead from its start
to its target without ever going back, however late the samples are taken, and none of them repeats
a position: `Schedule.moves_glide`.
-/
namespace InputActions

/-! ### Rectangles -/

namespace Point

/-- Whether a point lies in the rectangle with these corners. -/
def Within (point corner opposite : Point) : Prop :=
  (corner.x.toInt ≤ point.x.toInt ∧ point.x.toInt ≤ opposite.x.toInt ∨
      opposite.x.toInt ≤ point.x.toInt ∧ point.x.toInt ≤ corner.x.toInt) ∧
    (corner.y.toInt ≤ point.y.toInt ∧ point.y.toInt ≤ opposite.y.toInt ∨
      opposite.y.toInt ≤ point.y.toInt ∧ point.y.toInt ≤ corner.y.toInt)

/-- A point whose coordinates are not negative and are represented by floating point numbers. -/
structure IsExact (point : Point) : Prop where
  x : 0 ≤ point.x.toInt ∧ point.x.toInt ≤ 2 ^ 53
  y : 0 ≤ point.y.toInt ∧ point.y.toInt ≤ 2 ^ 53

variable {point next here start target : Point}

theorem within_left (start target : Point) : start.Within start target := by
  unfold Within
  omega

theorem within_right (start target : Point) : target.Within start target := by
  unfold Within
  omega

/-- Whoever goes on towards the target stays in the rectangle. -/
theorem Within.trans (h : next.Within here target) (inside : here.Within start target) :
    next.Within start target := by
  unfold Within at *
  omega

/-- A rectangle of one point holds no other. -/
theorem Within.eq (h : point.Within start start) : point = start := by
  obtain ⟨x, y⟩ := point
  unfold Within at h
  dsimp only at h
  have hx : x = start.x := Int64.toInt_inj.mp (by omega)
  have hy : y = start.y := Int64.toInt_inj.mp (by omega)
  rw [hx, hy]

end Point

namespace Motion

variable {start target : Point} (exactStart : start.IsExact) (exactTarget : target.IsExact)
  {duration : UInt64}
include exactStart exactTarget

/-- A sample lies in the rectangle of the start and the target. -/
theorem interpolate_within {elapsed : Nat} (left : elapsed < duration.toNat) :
    (interpolate start target (share elapsed duration)).Within start target := by
  obtain ⟨part, same, nonneg, whole⟩ := share_mem left
  rw [same]
  have inside {a b : Int64} (ha : 0 ≤ a.toInt ∧ a.toInt ≤ 2 ^ 53)
      (hb : 0 ≤ b.toInt ∧ b.toInt ≤ 2 ^ 53) :
      a.toInt ≤ (between a b (.finite part)).toInt ∧
          (between a b (.finite part)).toInt ≤ b.toInt ∨
        b.toInt ≤ (between a b (.finite part)).toInt ∧
          (between a b (.finite part)).toInt ≤ a.toInt := by
    rcases Int.le_total a.toInt b.toInt with up | down
    · exact Or.inl (between_mem nonneg whole ha.1 hb.2 ⟨le_refl _, up⟩ ⟨up, le_refl _⟩)
    · exact Or.inr (between_mem nonneg whole hb.1 ha.2 ⟨down, le_refl _⟩ ⟨le_refl _, down⟩)
  exact ⟨inside exactStart.x exactTarget.x, inside exactStart.y exactTarget.y⟩

/-- A later sample lies between an earlier one and the target. -/
theorem interpolate_onward {earlier later : Nat} (le : earlier ≤ later)
    (left : later < duration.toNat) :
    (interpolate start target (share later duration)).Within
      (interpolate start target (share earlier duration)) target := by
  have near := interpolate_within exactStart exactTarget (le.trans_lt left)
  have far := interpolate_within exactStart exactTarget left
  obtain ⟨part, further, same, same', nonneg, order, whole⟩ := share_mono le left
  have mono := between_mono nonneg order whole exactStart.x exactTarget.x
  have mono' := between_mono nonneg order whole exactStart.y exactTarget.y
  rw [same] at near
  rw [same'] at far
  rw [same, same']
  unfold Point.Within interpolate at *
  dsimp only at *
  omega

end Motion

/-! ### Paths -/

/-- A path leads from a start to a point on the way to a target: each of its stops lies between the
one before and the target, and is none but the first to be there. -/
structure Point.Leads (start target : Point) (path : List Point) (here : Point) : Prop where
  onward : (start :: path).IsChain fun here next => next ≠ here ∧ next.Within here target
  inside : ∀ stop ∈ path, stop.Within start target
  last : (start :: path).getLast? = some here

namespace Point.Leads

variable {start target here next : Point} {path : List Point}

theorem rests (start target : Point) : start.Leads target [] start where
  onward := .singleton start
  inside := List.forall_mem_nil _
  last := rfl

theorem here_within (h : start.Leads target path here) : here.Within start target := by
  rcases List.eq_nil_or_concat path with rfl | ⟨front, stop, rfl⟩
  · cases h.last
    exact within_left start target
  · have last := h.last
    rw [List.concat_eq_append, ← List.cons_append, List.getLast?_concat] at last
    cases last
    exact h.inside here (by simp)

theorem goesOn (h : start.Leads target path here) (apart : next ≠ here)
    (within : next.Within here target) : start.Leads target (path ++ [next]) next where
  onward := by
    rw [← List.cons_append, List.isChain_append]
    refine ⟨h.onward, .singleton next, fun other last first first' => ?_⟩
    rw [h.last] at last
    cases last
    cases first'
    exact ⟨apart, within⟩
  inside := List.forall_mem_append.mpr
    ⟨h.inside, List.forall_mem_singleton.mpr (within.trans h.here_within)⟩
  last := by rw [← List.cons_append, List.getLast?_concat]

/-- A path to where it begins has no stop. -/
theorem eq_nil (h : start.Leads start path here) : path = [] := by
  cases path with
  | nil => rfl
  | cons stop rest =>
    have same := (h.inside stop List.mem_cons_self).eq
    have apart := (List.isChain_cons_cons.mp h.onward).1.1
    exact absurd same apart

theorem getLast? (h : start.Leads target path here) (moves : here ≠ start) :
    path.getLast? = some here := by
  cases path with
  | nil => exact absurd (Option.some.inj h.last).symm moves
  | cons stop rest => exact h.last

end Point.Leads

/-! ### Sections -/

/-- Where the mousemoves of a section lead. -/
def Passage.stops (passage : Passage) : List Point :=
  passage.told.filterMap fun injection => injection.landing?.map (·.2)

/-- The target that a move learns when it hears what the viewport is, if it is inside. -/
def Passage.target? (passage : Passage) : Option Point :=
  match passage.slot with
  | .waiting _ (.viewport move base none) =>
    (Motion.target passage.world.host.viewport base move.dx move.dy).toOption
  | _ => none

/-- What a section of a move that has come to a point leads on to: it stays there and tells nothing,
or it goes on to another point. -/
def Point.Steps (target here further : Point) (stops : List Point) : Prop :=
  further = here ∧ stops = [] ∨ further ≠ here ∧ further.Within here target ∧ stops = [further]

/-- A move on the way from its start to its target, which has come to a point. -/
inductive Slot.Travels (id : SourceId) (start target here : Point) (world : World) : Slot → Prop
  | sample {wake move} (own : move.id = id) (begun : move.start = start)
      (placed : world.inputs.store.position id = here)
      (ahead : ∀ elapsed, world.now ≤ move.started + elapsed → elapsed < move.duration.toNat →
        (Motion.interpolate start target (Motion.share elapsed move.duration)).Within here target) :
      Travels id start target here world (.waiting wake (.sample move target))
  | step {wake move verdict} (own : move.id = id) (begun : move.start = start)
      (accepted : verdict.refusal = none)
      (ahead : ∀ elapsed, world.now ≤ move.started + elapsed → elapsed < move.duration.toNat →
        (Motion.interpolate start target (Motion.share elapsed move.duration)).Within here target) :
      Travels id start target here world (.waiting wake (.step move target here verdict))
  | arrival {wake verdict} (accepted : verdict.refusal = none) (there : here = target) :
      Travels id start target here world (.waiting wake (.arrival id target verdict))
  | arrived (there : here = target) : Travels id start target here world (.settled (.ok ()))

/-- If the surface refuses nothing, the move goes on with this section. -/
def Onward (id : SourceId) (start target here : Point) (before : World)
    (result : World × Outcome) : Prop :=
  (∀ injection ∈ result.1.host.journal.drop before.host.journal.length,
      injection.refusal = none) →
    ∃ further, (Slot.ofOutcome result.1 result.2).Travels id start target further result.1 ∧
      target.Steps here further ((result.1.host.journal.drop before.host.journal.length).filterMap
        fun injection => injection.landing?.map (·.2))

/-- A mouse is told to move unless it is there. -/
theorem Inputs.moveEvent_of_mouse {inputs : Inputs} {id : SourceId} {here : Point}
    (mouse : inputs.IsMouse id) (placed : inputs.store.position id = here) (point : Point) :
    inputs.moveEvent id point = .ok none ∧ point = here ∨
      point ≠ here ∧ ∃ event, inputs.moveEvent id point = .ok (some event) ∧
        event.kind = .mousemove ∧ event.position = point := by
  obtain ⟨source, found⟩ := mouse.found
  have same : source.position = here :=
    (Store.position_of_getElem? (Store.mouse_eq_ok found).1).symm.trans placed
  by_cases there : source.position = point
  · refine Or.inl ⟨?_, there.symm.trans same⟩
    simp [moveEvent, found, bind, Except.bind, there, pure, Except.pure]
  · refine Or.inr ⟨fun is => there (same.trans is.symm),
      { mouseEvent inputs.store .mousemove source 0 with position := point }, ?_, rfl, rfl⟩
    simp only [moveEvent, found, bind, Except.bind, there, if_false, pure, Except.pure]

private theorem drop_request {before world : World}
    (journal : world.host.journal = before.host.journal) (id : SourceId) (event : Event)
    (wait : Verdict → Wait) :
    (world.request id event wait).1.host.journal.drop before.host.journal.length =
      [⟨world.now, id, event, world.host.injectionRefusal world.host.tally world.now⟩] := by
  simp [World.request, World.inject, journal]

section
variable {id : SourceId} {start target here : Point} {before world : World}
  (journal : world.host.journal = before.host.journal) (mouse : world.inputs.IsMouse id)
  (placed : world.inputs.store.position id = here)
include journal mouse placed

private theorem onward_moveToTarget :
    Onward id start target here before (world.moveToTarget id target) := by
  unfold World.moveToTarget
  rcases Inputs.moveEvent_of_mouse mouse placed target with
    ⟨still, there⟩ | ⟨apart, event, moves, kind, position⟩
  · rw [still]
    refine fun _ => ⟨here, .arrived there.symm, Or.inl ⟨rfl, ?_⟩⟩
    simp [journal]
  · rw [moves]
    intro accepted
    dsimp only at accepted ⊢
    rw [drop_request journal] at accepted ⊢
    refine ⟨target, .arrival (accepted _ List.mem_cons_self) rfl, Or.inr ⟨apart, ?_, ?_⟩⟩
    · exact Point.within_right here target
    · simp [Injection.landing?, kind, position]

private theorem onward_moveToSample {session : Session} {move : Move} {position : Point}
    (own : move.id = id) (begun : move.start = start) (within : position.Within here target)
    (ahead : ∀ elapsed, world.now ≤ move.started + elapsed → elapsed < move.duration.toNat →
      (Motion.interpolate start target (Motion.share elapsed move.duration)).Within position
        target) :
    Onward id start target here before (world.moveToSample session move target position) := by
  unfold World.moveToSample
  rw [own]
  rcases Inputs.moveEvent_of_mouse mouse placed position with
    ⟨still, there⟩ | ⟨apart, event, moves, kind, place⟩
  · rw [still]
    subst there
    refine fun _ => ⟨position, .sample own begun placed ahead, Or.inl ⟨rfl, ?_⟩⟩
    simp [World.awaitSample, journal]
  · rw [moves]
    intro accepted
    dsimp only at accepted ⊢
    rw [drop_request journal] at accepted ⊢
    refine ⟨position, .step own begun (accepted _ List.mem_cons_self) ahead,
      Or.inr ⟨apart, within, ?_⟩⟩
    simp [Injection.landing?, kind, place]

end

/-- A mouse that is put somewhere is there. -/
theorem Inputs.position_place {inputs : Inputs} {id : SourceId} (mouse : inputs.IsMouse id)
    (point : Point) : (inputs.place id point).store.position id = point := by
  obtain ⟨source, found⟩ := mouse.found
  rw [place, Store.setPosition, (Store.mouse_eq_ok found).1]
  exact (Store.position_put _ _ _ _).trans (if_pos rfl)

/-- A section of a move on its way leads it on. -/
theorem Slot.Travels.onward {id : SourceId} {start target here : Point} {passage : Passage}
    (h : passage.slot.Travels id start target here passage.world) (exactStart : start.IsExact)
    (exactTarget : target.IsExact) (mouse : passage.world.inputs.IsMouse id)
    (accepted : ∀ injection ∈ passage.told, injection.refusal = none) :
    ∃ further, passage.next.Travels id start target further passage.after ∧
      target.Steps here further passage.stops := by
  obtain ⟨spot, context, duration, slot, world⟩ := passage
  dsimp only at h mouse
  have stays {next : Slot} (same : (slot.step context duration world).2 = next)
      (journal : (slot.step context duration world).1.host.journal = world.host.journal)
      (travels : next.Travels id start target here (slot.step context duration world).1) :
      ∃ further, ((slot.step context duration world).2).Travels id start target further
          (slot.step context duration world).1 ∧
        target.Steps here further (Passage.stops ⟨spot, context, duration, slot, world⟩) := by
    refine ⟨here, same ▸ travels, Or.inl ⟨rfl, ?_⟩⟩
    rw [Passage.stops, Passage.told, Passage.after, journal, List.drop_length, List.filterMap_nil]
  cases h with
  | @sample wake move own begun placed ahead =>
    have onward : Onward id start target here world
        (Wait.takeSample context move target world) := by
      unfold Wait.takeSample
      dsimp only
      split
      next continues =>
        have left := Motion.elapsed_lt_of_continues continues
        refine onward_moveToSample rfl mouse placed own begun ?_ fun elapsed late inside => ?_
        · rw [begun]
          exact ahead _ (by omega) left
        · rw [begun]
          exact Motion.interpolate_onward exactStart exactTarget (by omega) inside
      next =>
        rw [own]
        exact onward_moveToTarget rfl mouse placed
    exact onward accepted
  | @step wake move verdict own begun fine ahead =>
    obtain ⟨source, found⟩ := (own ▸ mouse : world.inputs.IsMouse move.id).found
    have stepped :
        (Slot.waiting wake (.step move target here verdict)).step context duration world =
        ({ world.acknowledge verdict with inputs := world.inputs.place move.id here },
          .waiting (world.wake context.session.config.sampleInterval.toNat)
            (.sample move target)) := by
      simp [Slot.step, Wait.resume, fine, World.acknowledge, Inputs.arrive_eq _ _ _ found,
        World.awaitSample, Slot.ofOutcome, World.wake]
    refine stays (by rw [stepped]) (by rw [stepped]; rfl) (.sample own begun ?_ ?_)
    · rw [stepped, own]
      exact Inputs.position_place mouse here
    · rw [stepped]
      exact ahead
  | @arrival wake verdict fine there =>
    obtain ⟨source, found⟩ := mouse.found
    have stepped : (Slot.waiting wake (.arrival id target verdict)).step context duration world =
        ({ world.acknowledge verdict with inputs := world.inputs.place id target },
          .settled (.ok ())) := by
      simp [Slot.step, Wait.resume, fine, World.acknowledge, Inputs.arrive_eq _ _ _ found,
        Outcome.done, Slot.ofOutcome]
    exact stays (by rw [stepped]) (by rw [stepped]; rfl) (.arrived there)
  | arrived there => exact stays rfl rfl (.arrived there)

/-! ### Other sections -/

/-- Whoever hears that a mousemove was accepted has moved its pointer. -/
theorem Slot.mover?_of_accepted? {slot : Slot} {id : SourceId} {target : Point}
    (h : slot.accepted? = some (id, target)) : slot.mover? = some id := by
  obtain ⟨⟨own, point, verdict⟩, lands, accepts⟩ := Option.bind_eq_some_iff.mp h
  cases slot with
  | waiting wake wait =>
    have mover : (Slot.waiting wake wait).mover? = some own := by
      cases wait <;> cases lands <;> rfl
    dsimp only at accepts
    split at accepts
    · cases accepts
      exact mover
    · cases accepts
  | _ => cases lands

/-- A section in which nobody moves a pointer, and nothing is forgotten, leaves it where it is. -/
theorem Activity.position_of_apart {activity : Activity} {call : Nat} {world : World}
    (ready : activity.isReady world.now = true) (kept : activity.isReset = false) {id : SourceId}
    (apart : ∀ passage, activity.passage? call world = some passage →
      passage.slot.mover? ≠ some id) (session : Session) :
    (activity.step session world).1.inputs.store.position id =
      world.inputs.store.position id := by
  cases passes : activity.passage? call world with
  | some passage =>
    obtain ⟨store, -, found, -⟩ := step_of_passage passes session
    rw [store, ← found]
    exact (passage.slot.step_turn passage.context passage.duration passage.world).position
      fun target accepted => apart passage passes (Slot.mover?_of_accepted? accepted)
  | none =>
    cases activity with
    | planned instant request =>
      exact ((step_turn session ready).grows_of_planned kept).position id
    | _ => rw [store_of_passage? passes rfl]

/-- A section leaves every mouse a mouse. -/
theorem Passage.isMouse_after (passage : Passage) {id : SourceId}
    (mouse : passage.world.inputs.IsMouse id) : passage.after.inputs.IsMouse id :=
  ((passage.slot.step_turn passage.context passage.duration passage.world).kind? _).trans mouse

/-! ### The whole way -/

/-- What a move of a mouse has come to after these sections: it asks about the geometry, it has
failed without learning a target, or it has learned one and is on its way there. -/
inductive Action.Travels (action : Action) (start : Point) (past : List Passage) (world : World) :
    Slot → Prop
  | asks {wake wait move} (measuring : wait.isMeasuring = true) (moves : wait.move? = some move)
      (own : move.id = action.id) (begun : move.start = start)
      (placed : world.inputs.store.position action.id = start)
      (silent : past.flatMap (·.stops) = []) (unknown : ∀ part ∈ past, part.target? = none) :
      Travels action start past world (.waiting wake wait)
  | fails {error} (unknown : ∀ part ∈ past, part.target? = none) :
      Travels action start past world (.settled (.error error))
  | goes {slot target} (setsOut : slot.SetsOut)
      (known : ∀ part ∈ past, ∀ other, part.target? = some other → other = target)
      (way : start.IsExact → target.IsExact → ∃ here,
        start.Leads target (past.flatMap (·.stops)) here ∧
          slot.Travels action.id start target here world) :
      Travels action start past world slot

theorem Point.Leads.steps {start target here further : Point} {path stops : List Point}
    (h : start.Leads target path here) (steps : target.Steps here further stops) :
    start.Leads target (path ++ stops) further := by
  rcases steps with ⟨rfl, rfl⟩ | ⟨apart, within, rfl⟩
  · rwa [List.append_nil]
  · exact h.goesOn apart within

/-- Only a move that asks for the viewport can learn its target. -/
theorem Passage.target?_of_setsOut {passage : Passage} (h : passage.slot.SetsOut) :
    passage.target? = none := by
  unfold target?
  generalize passage.slot = slot at h
  cases h <;> rfl

section
variable {action : Action} {start : Point} {past : List Passage} {world after : World}
  {slot : Slot}

/-- A move goes on as before if its pointer stays where it is, also if time passes. -/
theorem Slot.Travels.later {id : SourceId} {target here : Point}
    (h : slot.Travels id start target here world)
    (still : after.inputs.store.position id = world.inputs.store.position id)
    (late : world.now ≤ after.now) : slot.Travels id start target here after := by
  cases h with
  | sample own begun placed ahead =>
    exact .sample own begun (still.trans placed) fun elapsed due => ahead elapsed (late.trans due)
  | step own begun accepted ahead =>
    exact .step own begun accepted fun elapsed due => ahead elapsed (late.trans due)
  | arrival accepted there => exact .arrival accepted there
  | arrived there => exact .arrived there

theorem Action.Travels.later (h : action.Travels start past world slot)
    (still : after.inputs.store.position action.id = world.inputs.store.position action.id)
    (late : world.now ≤ after.now) : action.Travels start past after slot := by
  cases h with
  | asks measuring moves own begun placed silent unknown =>
    exact .asks measuring moves own begun (still.trans placed) silent unknown
  | fails unknown => exact .fails unknown
  | goes setsOut known way =>
    refine .goes setsOut known fun exactStart exactTarget => ?_
    obtain ⟨here, leads, travels⟩ := way exactStart exactTarget
    exact ⟨here, leads, travels.later still late⟩

/-- A move that sets out is at its start. -/
private theorem Context.onward_setOut (context : Context) {id : SourceId} {move : Move}
    {base target : Point} (own : move.id = id) (begun : move.start = start)
    (mouse : world.inputs.IsMouse id) (placed : world.inputs.store.position id = start)
    (reached : Motion.target world.host.viewport base move.dx move.dy = .ok target)
    (exactStart : start.IsExact) (exactTarget : target.IsExact) :
    Onward id start target start world (Wait.setOut context move base world) := by
  simp only [Wait.setOut, reached]
  split
  · rw [own]
    exact onward_moveToTarget rfl mouse placed
  · refine fun _ => ⟨start, .sample own begun placed fun elapsed _ left => ?_, Or.inl ⟨rfl, ?_⟩⟩
    · exact Motion.interpolate_within exactStart exactTarget left
    · simp [World.awaitSample]

section
variable {passage : Passage} {wake : Nat} {move : Move}
  (own : move.id = action.id) (begun : move.start = start)
  (placed : passage.world.inputs.store.position action.id = start)
  (silent : past.flatMap (·.stops) = []) (unknown : ∀ part ∈ past, part.target? = none)
include own begun placed silent unknown

/-- The section in which a move hears where the centre of an element is. -/
private theorem Action.travels_center {ref : ElementRef} {refusal : Option HostError}
    (waits : passage.slot = .waiting wake (.center move ref refusal)) :
    action.Travels start (past ++ [passage]) passage.after passage.next := by
  have stepped : passage.slot.step passage.context passage.duration passage.world =
    (passage.after, passage.next) := rfl
  have unknown : ∀ part ∈ past ++ [passage], part.target? = none := by
    refine List.forall_mem_append.mpr ⟨unknown, List.forall_mem_singleton.mpr ?_⟩
    rw [Passage.target?, waits]
  rw [waits] at stepped
  cases refusal with
  | some error =>
    rw [← (Prod.mk.inj stepped).2]
    exact .fails unknown
  | none =>
    simp only [Slot.step, Wait.resume] at stepped
    split at stepped
    · rw [← (Prod.mk.inj stepped).2]
      exact .fails unknown
    · obtain ⟨after, next⟩ := Prod.mk.inj stepped
      have quiet : passage.stops = [] := by
        have journal : passage.after.host.journal = passage.world.host.journal := by
          rw [← after]
          rfl
        rw [Passage.stops, Passage.told, journal, List.drop_length, List.filterMap_nil]
      rw [← next]
      refine .asks rfl rfl own begun ?_ (by simp [silent, quiet]) unknown
      rw [← after]
      exact placed

/-- The section in which a move hears what the viewport is. -/
private theorem Action.travels_viewport {base : Point} {refusal : Option HostError}
    (waits : passage.slot = .waiting wake (.viewport move base refusal))
    (mouse : passage.world.inputs.IsMouse action.id)
    (accepted : ∀ injection ∈ passage.told, injection.refusal = none) :
    action.Travels start (past ++ [passage]) passage.after passage.next := by
  have stepped : passage.slot.step passage.context passage.duration passage.world =
    (passage.after, passage.next) := rfl
  have unknowing (none : passage.target? = none) :
      ∀ part ∈ past ++ [passage], part.target? = .none :=
    List.forall_mem_append.mpr ⟨unknown, List.forall_mem_singleton.mpr none⟩
  rw [waits] at stepped
  cases refusal with
  | some error =>
    rw [← (Prod.mk.inj stepped).2]
    exact .fails (unknowing (by rw [Passage.target?, waits]))
  | none =>
    have learns : passage.target? =
        (Motion.target passage.world.host.viewport base move.dx move.dy).toOption := by
      rw [Passage.target?, waits]
    obtain ⟨after, next⟩ : (Wait.setOut passage.context move base passage.world).1 =
          passage.after ∧
        Slot.ofOutcome (Wait.setOut passage.context move base passage.world).1
          (Wait.setOut passage.context move base passage.world).2 = passage.next :=
      Prod.mk.inj stepped
    cases reached : Motion.target passage.world.host.viewport base move.dx move.dy with
    | error cause =>
      rw [← next]
      simp only [Wait.setOut, reached]
      exact .fails (unknowing (by rw [learns, reached]; rfl))
    | ok target =>
      have found : passage.target? = some target := by
        rw [learns, reached]
        rfl
      have setsOut : passage.next.SetsOut := by
        rw [← next]
        simp only [Wait.setOut, reached]
        split
        · exact World.setsOut_moveToTarget ..
        · exact .sample
      have known : ∀ part ∈ past ++ [passage], ∀ other, part.target? = some other →
          other = target := by
        refine List.forall_mem_append.mpr ⟨fun part member other learned => ?_, ?_⟩
        · cases learned.symm.trans (unknown part member)
        · exact List.forall_mem_singleton.mpr fun other learned =>
            Option.some.inj (learned.symm.trans found)
      refine .goes setsOut known fun exactStart exactTarget => ?_
      have onward := passage.context.onward_setOut own begun mouse placed reached exactStart
        exactTarget
      rw [Onward, next, after] at onward
      obtain ⟨further, travels, steps⟩ := onward accepted
      refine ⟨further, ?_, travels⟩
      rw [List.flatMap_append, List.flatMap_singleton, silent]
      exact (Point.Leads.rests start target).steps steps

end

/-- Every section of a move takes it along its way. -/
theorem Action.Travels.step {passage : Passage}
    (h : action.Travels start past passage.world passage.slot)
    (mouse : passage.world.inputs.IsMouse action.id)
    (accepted : ∀ injection ∈ passage.told, injection.refusal = none) :
    action.Travels start (past ++ [passage]) passage.after passage.next := by
  generalize stands : passage.slot = slot at h
  cases h with
  | @fails error unknown =>
    have next : passage.next = .settled (.error error) := by
      rw [Passage.next, stands]
      rfl
    rw [next]
    refine .fails (List.forall_mem_append.mpr ⟨unknown, List.forall_mem_singleton.mpr ?_⟩)
    rw [Passage.target?, stands]
  | @goes _ target setsOut known way =>
    subst stands
    have known : ∀ part ∈ past ++ [passage], ∀ other, part.target? = some other →
        other = target := by
      refine List.forall_mem_append.mpr ⟨known, List.forall_mem_singleton.mpr ?_⟩
      intro other learned
      cases learned.symm.trans (Passage.target?_of_setsOut setsOut)
    refine .goes (setsOut.onward _ _ _) known fun exactStart exactTarget => ?_
    obtain ⟨here, leads, travels⟩ := way exactStart exactTarget
    obtain ⟨further, travels, steps⟩ := travels.onward exactStart exactTarget mouse accepted
    refine ⟨further, ?_, travels⟩
    rw [List.flatMap_append, List.flatMap_singleton]
    exact leads.steps steps
  | @asks wake wait move measuring moves own begun placed silent unknown =>
    cases wait with
    | center =>
      cases moves
      exact Action.travels_center own begun placed silent unknown stands
    | viewport =>
      cases moves
      exact Action.travels_viewport own begun placed silent unknown stands mouse accepted
    | _ => cases measuring

/-- The first section of a move of a mouse. -/
theorem Action.travels_begin {passage : Passage} {gesture : Option UInt64} {origin : Origin}
    {dx dy : Int64} {source : PointerSource} (ready : passage.slot = .ready action)
    (moves : action.gesture = .pointerMove gesture origin dx dy)
    (found : passage.world.inputs.store.mouse action.id = .ok source) :
    action.Travels source.position [passage] passage.after passage.next := by
  have stepped : passage.slot.step passage.context passage.duration passage.world =
    (passage.after, passage.next) := rfl
  have unknown : ∀ part ∈ [passage], part.target? = none :=
    List.forall_mem_singleton.mpr (by rw [Passage.target?, ready])
  have placed : passage.world.inputs.store.position action.id = source.position :=
    Store.position_of_getElem? (Store.mouse_eq_ok found).1
  rw [ready] at stepped
  unfold Slot.step Action.begin at stepped
  simp only [moves, beginPointerMove, found] at stepped
  have quiet (journal : passage.after.host.journal = passage.world.host.journal) :
      [passage].flatMap (·.stops) = [] := by
    rw [List.flatMap_singleton, Passage.stops, Passage.told, journal, List.drop_length,
      List.filterMap_nil]
  cases origin with
  | viewport | pointer | element =>
    obtain ⟨after, next⟩ := Prod.mk.inj stepped
    rw [← next]
    refine .asks rfl rfl rfl rfl ?_ (quiet (by rw [← after]; rfl)) unknown
    rw [← after]
    exact placed

/-- What a move is measured from when it learns its target. -/
theorem Action.Course.aims {context : Context} {duration : UInt64} {gesture : Option UInt64}
    {origin : Origin} {dx dy : Int64} (h : action.Course context duration past slot)
    (moves : action.gesture = .pointerMove gesture origin dx dy) {part : Passage}
    (member : part ∈ past) {target : Point} (learned : part.target? = some target) :
    action.Aims context past target := by
  induction h with
  | begins => cases member
  | @goesOn past slot before spot world ih =>
    rcases List.mem_append.mp member with old | new
    · obtain ⟨gesture, origin, dx, dy, base, moves, based, offset⟩ := ih old
      exact ⟨gesture, origin, dx, dy, base, moves, based.later _, offset⟩
    · rw [List.mem_singleton.mp new] at learned
      unfold Passage.target? at learned
      dsimp only at learned
      split at learned
      next move base =>
        obtain ⟨based, rfl, rfl⟩ := before.base moves
        cases reached : Motion.target world.host.viewport base move.dx move.dy with
        | error cause => rw [reached] at learned; cases learned
        | ok point =>
          rw [reached] at learned
          cases learned
          exact ⟨gesture, origin, _, _, base, moves, based.later _,
            Motion.offset?_of_target reached⟩
      · cases learned

end

/-! ### Histories -/

namespace Schedule

variable {session : Session} {joins : Schedule → Request → Prop}
  {moves : Schedule → Schedule → Prop} {s : Schedule} {log : List Advance} {host : Host}

/-- A move goes on along its way through all that happens, provided that nobody else moves its
mouse, that it is not reset, and that its events are accepted. -/
theorem carries_travels {action : Action} {start : Point} {spot : Spot} {between : List Advance}
    (kept : ∀ other ∈ between, other.activity.isReset = false)
    (apart : ∀ other ∈ trail between, other.spot ≠ spot → other.slot.mover? ≠ some action.id)
    (accepted : ∀ part ∈ trail between, part.spot = spot →
      ∀ injection ∈ part.told, injection.refusal = none) :
    Carries moves session spot between fun past slot world =>
      world.inputs.IsMouse action.id ∧ action.Travels start past world slot where
  elapse later _ _ holds := ⟨holds.1, holds.2.later rfl later⟩
  others := fun {past slot other} member ready elsewhere holds => by
    have still : (other.after session).inputs.store.position action.id =
        other.world.inputs.store.position action.id :=
      Activity.position_of_apart ready (kept other member) (fun foreign passes => apart foreign
        (List.mem_filterMap.mpr ⟨other, member, passes⟩) (elsewhere foreign passes)) session
    exact ⟨(other.activity.step_turn session ready).kind? (kept other member) holds.1,
      holds.2.later still (other.activity.step_now session other.world).ge⟩
  own := fun {past other part} member passes here _ _ holds =>
    ⟨part.isMouse_after holds.1, holds.2.step holds.1
      (accepted part (List.mem_filterMap.mpr ⟨other, member, passes⟩) here)⟩

/-- Moves glide. Whatever else runs and however late the answers come, a move of a mouse that nobody
else moves, that is not reset and whose events are all accepted, learns a target. Provided that
floating point numbers represent the coordinates of its start and of its target, each of its events
leads from where the mouse was to another point between there and the target. When it settles, it
has succeeded, and its last event was at the target; if it began there, it has no event at all. -/
theorem moves_glide (h : Chronicle joins moves ⟨session, .initial host, []⟩ s log) :
    ∀ early begins between advance late first passage action duration origin dx dy source,
      log = early ++ begins :: (between ++ advance :: late) →
      begins.passage? = some first → first.slot = .ready action →
      action.gesture = .pointerMove duration origin dx dy →
      first.world.inputs.store.mouse action.id = .ok source →
      advance.passage? = some passage → passage.spot = first.spot →
      passage.slot.isSettled = false →
      (∀ other ∈ between, other.activity.isReset = false) →
      (∀ other ∈ trail between, other.spot ≠ first.spot → other.slot.mover? ≠ some action.id) →
      let sections := first :: (trail (between ++ [advance])).filter (·.spot = first.spot)
      (∀ part ∈ sections, ∀ injection ∈ part.told, injection.refusal = none) →
      ∀ part ∈ sections, ∀ target, part.target? = some target →
        action.Aims passage.context sections target ∧
        (source.position.IsExact → target.IsExact →
          let path := sections.flatMap (·.stops)
          (source.position :: path).IsChain
              (fun here next => next ≠ here ∧ next.Within here target) ∧
            (∀ stop ∈ path, stop.Within source.position target) ∧
            ∀ result, passage.next = .settled result → result = .ok () ∧
              (source.position = target → path = []) ∧
              (source.position ≠ target → path.getLast? = some target)) := by
  rintro early begins between advance late first passage action duration origin dx dy source rfl
    began ready gesture found passes here live kept apart sections accepted part member target
    learned
  have sections_eq : sections =
      (first :: (trail between).filter (·.spot = first.spot)) ++ [passage] := by
    simp [sections, trail_concat, passes, here]
  have listed {part : Passage} (between : part ∈ trail between) (here : part.spot = first.spot) :
      part ∈ sections := by
    rw [sections_eq]
    exact List.mem_append_left _ (List.mem_cons_of_mem _
      (List.mem_filter.mpr ⟨between, decide_eq_true here⟩))
  obtain ⟨goesOn, unsettled⟩ := h.unsettled rfl began passes here live
  obtain ⟨⟨mouse, travels⟩, -⟩ := h.carried began passes here goesOn unsettled
    (carries_travels kept apart fun part between here => accepted part (listed between here))
    ⟨first.isMouse_after (Inputs.isMouse_of_found found), Action.travels_begin ready gesture found⟩
  have last : passage ∈ sections := by rw [sections_eq]; simp
  have travels := travels.step mouse (accepted passage last)
  rw [← sections_eq] at travels
  constructor
  · have course := (h.course_since rfl began ready passes here).goesOn passage.spot passage.world
    rw [show (⟨passage.spot, passage.context, passage.duration, passage.slot, passage.world⟩ :
      Passage) = passage from rfl, ← sections_eq] at course
    exact course.aims gesture member learned
  · intro exactStart exactTarget path
    generalize ends : passage.next = next at travels
    cases travels with
    | asks _ _ _ _ _ _ unknown => cases learned.symm.trans (unknown part member)
    | fails unknown => cases learned.symm.trans (unknown part member)
    | goes _ known way =>
      cases known part member target learned
      obtain ⟨point, leads, travels⟩ := way exactStart exactTarget
      refine ⟨leads.onward, leads.inside, fun result settles => ?_⟩
      subst settles
      cases travels with
      | arrived there =>
        subst there
        refine ⟨rfl, fun same => ?_, fun moved => leads.getLast? (Ne.symm moved)⟩
        rw [same] at leads
        exact leads.eq_nil

/-- A mouse takes forty milliseconds to get somewhere. -/
def strolling : Action := ⟨⟨"m"⟩, .pointer, none, .pointerMove (some 40) .viewport 9 4⟩

def strolls : Schedule :=
  join ⟨.ofConfig .standard, .initial (.prompt .standard), []⟩ 0 (.perform [[strolling]] none)

/-- The move takes two samples on its way and arrives. -/
theorem strolls_glide :
    let log := strolls.annals 14
    let between := (log.drop 2).take 6
    Chronicle (fun _ _ => True) (fun _ _ => True)
        ⟨.ofConfig .standard, .initial (.prompt .standard), []⟩ (strolls.steps 14) log ∧
      ∃ first passage advance, log[8]? = some advance ∧ advance.passage? = some passage ∧
        passage.next = .settled (.ok ()) ∧
        let path := (first :: (trail (between ++ [advance])).filter
          (·.spot = first.spot)).flatMap (·.stops)
        path = [⟨3, 1⟩, ⟨7, 3⟩, ⟨9, 4⟩] ∧ (Point.origin :: path).IsChain
          (fun here next => next ≠ here ∧ next.Within here ⟨9, 4⟩) := by
  intro log between
  have begun : Chronicle (fun _ _ => True) (fun _ _ => True)
      ⟨.ofConfig .standard, .initial (.prompt .standard), []⟩ strolls [] :=
    Chronicle.begins.join 0 _ trivial
  have chronicle := begun.steps (fun _ _ => trivial) 14
  rw [List.nil_append] at chronicle
  refine ⟨chronicle, ?_⟩
  have begins : (log[1]?.bind fun begins => begins.passage?.map fun first =>
      (first.spot, first.slot.action?,
        (first.world.inputs.store.mouse ⟨"m"⟩).toOption.map (·.position))) =
      some (⟨0, 0, 0⟩, some strolling, some .origin) := by
    decide +kernel
  have ends : (log[8]?.bind fun advance => advance.passage?.map fun passage =>
      (passage.spot, passage.slot.isSettled, passage.next.isSettled,
        passage.next.error?.isNone)) = some (⟨0, 0, 0⟩, false, true, true) := by
    decide +kernel
  have only : between.all (fun other => !other.activity.isReset &&
      other.passage?.all (·.spot = ⟨0, 0, 0⟩)) = true := by
    decide +kernel
  -- All that the sections tell is accepted, and one of them learns the target.
  have told : (log[1]?.bind fun begins => begins.passage?.bind fun first =>
      log[8]?.map fun advance =>
        let sections := first :: (trail (between ++ [advance])).filter (·.spot = first.spot)
        (sections.all (·.told.all (·.refusal = none)), sections.flatMap (·.stops),
          sections.filterMap (·.target?))) =
      some (true, [⟨3, 1⟩, ⟨7, 3⟩, ⟨9, 4⟩], [⟨9, 4⟩]) := by
    decide +kernel
  obtain ⟨start, foundStart, begins⟩ := Option.bind_eq_some_iff.mp begins
  obtain ⟨first, began, begins⟩ := Option.map_eq_some_iff.mp begins
  obtain ⟨advance, foundEnd, ends⟩ := Option.bind_eq_some_iff.mp ends
  obtain ⟨passage, passes, ends⟩ := Option.map_eq_some_iff.mp ends
  simp only [Prod.mk.injEq] at begins ends
  obtain ⟨spot, ready, mouse⟩ := begins
  obtain ⟨spot', live, settled, fine⟩ := ends
  simp only [foundStart, began, foundEnd, Option.bind_some, Option.map_some, Option.some.injEq,
    Prod.mk.injEq] at told
  obtain ⟨accepted, path, learned⟩ := told
  obtain ⟨part, member, target⟩ := List.mem_filterMap.mp (learned ▸ List.mem_cons_self)
  obtain ⟨source, found, origin⟩ := Option.map_eq_some_iff.mp mouse
  have found : first.world.inputs.store.mouse ⟨"m"⟩ = .ok source := by
    cases looked : first.world.inputs.store.mouse ⟨"m"⟩ with
    | error error => rw [looked] at found; cases found
    | ok other => rw [looked] at found; cases found; rfl
  have split : log = log.take 1 ++ start :: (between ++ advance :: log.drop 9) :=
    eq_take_append foundStart foundEnd
  have quiet (other : Advance) (listed : other ∈ between) : other.activity.isReset = false ∧
      ∀ foreign, other.passage? = some foreign → foreign.spot = ⟨0, 0, 0⟩ := by
    have only := List.all_eq_true.mp only other listed
    rw [Bool.and_eq_true, Bool.not_eq_true'] at only
    refine ⟨only.1, fun foreign passes => ?_⟩
    rw [passes] at only
    exact of_decide_eq_true only.2
  obtain ⟨-, glides⟩ := moves_glide chronicle _ start between advance _ first passage strolling
    (some 40) .viewport 9 4 source split began (Slot.eq_ready ready) rfl found passes
    (spot'.trans spot.symm) live (fun other listed => (quiet other listed).1)
    (fun foreign listed away => by
      obtain ⟨other, member, passes⟩ := List.mem_filterMap.mp listed
      exact absurd (((quiet other member).2 foreign passes).trans spot.symm) away)
    (fun part listed injection told => of_decide_eq_true
      (List.all_eq_true.mp (List.all_eq_true.mp accepted part listed) injection told))
    part member ⟨9, 4⟩ target
  obtain ⟨onward, -, -⟩ := glides (by rw [origin]; exact ⟨by decide, by decide⟩)
    ⟨by decide, by decide⟩
  exact ⟨first, passage, advance, foundEnd, passes, Slot.eq_done settled fine, path,
    origin ▸ onward⟩

end Schedule

end InputActions
