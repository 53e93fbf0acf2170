import InputActions.Proofs.Arriving
import InputActions.Proofs.Latency
import InputActions.Proofs.Reporting

/-!
# Targets out of bounds

The target of a move is tested once, as soon as the surface has answered what the viewport is. The
test works on coordinates of 64 bits, and it agrees with the test of the exact sums for every base,
every offset and every viewport (`Motion.target_iff`). Until then a move only asks, so one that does
not set out has told the surface nothing and has changed no inputs: `Schedule.bounds_come_first`.
-/
namespace InputActions

/-! ### The test -/

/-- Whether the exact sums of a point and an offset lie in a viewport. -/
def Viewport.Reaches (view : Viewport) (base : Point) (dx dy : Int64) : Prop :=
  (0 ≤ base.x.toInt + dx.toInt ∧ base.x.toInt + dx.toInt ≤ view.width.toInt) ∧
    (0 ≤ base.y.toInt + dy.toInt ∧ base.y.toInt + dy.toInt ≤ view.height.toInt)

/-- A sum between zero and a coordinate is a coordinate. -/
theorem Coordinate.exists_sum? {a b limit : Int64} (nonneg : 0 ≤ a.toInt + b.toInt)
    (inside : a.toInt + b.toInt ≤ limit.toInt) : ∃ c, sum? a b = some c := by
  cases found : sum? a b with
  | some c => exact ⟨c, rfl⟩
  | none =>
    have small : Int64.minValue.toInt ≤ 0 := by decide
    have large : limit.toInt ≤ Int64.maxValue.toInt := Int64.toInt_le limit
    rcases (sum?_eq_none_iff a b).mp found with below | above <;> omega

theorem Point.offset?_eq_some_iff {base point : Point} {dx dy : Int64} :
    base.offset? dx dy = some point ↔
      Coordinate.sum? base.x dx = some point.x ∧ Coordinate.sum? base.y dy = some point.y := by
  obtain ⟨x, y⟩ := point
  unfold offset?
  cases Coordinate.sum? base.x dx <;> cases Coordinate.sum? base.y dy <;> simp

/-- The test of a target agrees with the exact one, whether or not a sum overflows. -/
theorem Motion.target_iff (view : Viewport) (base : Point) (dx dy : Int64) :
    (∃ target, Motion.target view base dx dy = .ok target) ↔ view.Reaches base dx dy := by
  constructor
  · rintro ⟨target, reached⟩
    have admits := Viewport.admits_target reached
    obtain ⟨x, y⟩ := Point.offset?_eq_some_iff.mp (offset?_of_target reached)
    rw [Viewport.Admits, Coordinate.toInt_of_sum? x, Coordinate.toInt_of_sum? y] at admits
    exact admits
  · rintro ⟨⟨left, right⟩, top, bottom⟩
    obtain ⟨x, hx⟩ := Coordinate.exists_sum? left right
    obtain ⟨y, hy⟩ := Coordinate.exists_sum? top bottom
    have moved : base.offset? dx dy = some ⟨x, y⟩ := Point.offset?_eq_some_iff.mpr ⟨hx, hy⟩
    have inside : view.contains ⟨x, y⟩ = true := by
      rw [← Viewport.admits_iff, Viewport.Admits]
      dsimp only
      rw [Coordinate.toInt_of_sum? hx, Coordinate.toInt_of_sum? hy]
      exact ⟨⟨left, right⟩, top, bottom⟩
    exact ⟨⟨x, y⟩, by simp only [Motion.target, moved, inside, if_true]⟩

/-! ### Before a move sets out -/

/-- Whether the surface is asked about its geometry. -/
def Wait.isMeasuring : Wait → Bool
  | .center .. => true
  | .viewport .. => true
  | _ => false

namespace Passage

variable (passage : Passage)

/-- A section that hears that the surface refuses what it was asked about its geometry. -/
def Denied (error : HostError) : Prop :=
  ∃ wake wait, passage.slot = .waiting wake wait ∧ wait.isMeasuring = true ∧
    wait.failure? passage.context.mode passage.world.host = some error

/-- A section that tells the surface nothing and leaves the inputs as they are. -/
def Harmless : Prop := passage.told = [] ∧ passage.after.inputs = passage.world.inputs

variable {passage}

theorem harmless_of_world (journal : passage.after.host.journal = passage.world.host.journal)
    (inputs : passage.after.inputs = passage.world.inputs) : passage.Harmless :=
  ⟨by rw [told, journal, List.drop_length], inputs⟩

theorem harmless_of_settled {result : Except ActionError Unit}
    (settled : passage.slot = .settled result) : passage.Harmless := by
  have same : passage.after = passage.world := by rw [after, settled]; rfl
  exact harmless_of_world (by rw [same]) (by rw [same])

theorem not_denied_of_settled {result : Except ActionError Unit}
    (settled : passage.slot = .settled result) (error : HostError) : ¬ passage.Denied error := by
  rintro ⟨_, _, waits, -⟩
  cases settled.symm.trans waits

theorem not_denied_of_ready {action : Action} (ready : passage.slot = .ready action)
    (error : HostError) : ¬ passage.Denied error := by
  rintro ⟨_, _, waits, -⟩
  cases ready.symm.trans waits

end Passage

/-- The point that a move is measured from, and the viewport that its target is compared with: both
as the section knows them that hears what the viewport is. -/
def Origin.Measured (origin : Origin) (action : Action) (context : Context) (past : List Passage)
    (base : Point) (view : Viewport) : Prop :=
  ∃ measured ∈ past, ∃ wake move, measured.slot = .waiting wake (.viewport move base none) ∧
    measured.world.host.viewport = view ∧ origin.Base action context past base

/-- A move that has set out, however it ended. It does not end out of bounds. -/
inductive Slot.SetsOut : Slot → Prop
  | settled {result} (inside : ∀ cause, result ≠ .error (.moveTargetOutOfBounds cause)) :
      SetsOut (.settled result)
  | sample {wake move target} : SetsOut (.waiting wake (.sample move target))
  | step {wake move target position verdict} :
      SetsOut (.waiting wake (.step move target position verdict))
  | arrival {wake id target verdict} : SetsOut (.waiting wake (.arrival id target verdict))

/-- A name that is not that of a mouse is the reason of no target out of bounds. -/
theorem Store.mouse_inside {store : Store} {id : SourceId} {error : ActionError}
    (h : store.mouse id = .error error) (cause : OutOfBounds) :
    error ≠ .moveTargetOutOfBounds cause := by
  rintro rfl
  unfold mouse at h
  split at h
  · split at h <;> cases h
  · cases h
  · cases h

namespace World

variable (world : World)

theorem setsOut_moveToTarget (id : SourceId) (target : Point) :
    (Slot.ofOutcome (world.moveToTarget id target).1 (world.moveToTarget id target).2).SetsOut := by
  unfold moveToTarget
  split
  next fails =>
    exact .settled fun cause same =>
      Store.mouse_inside (Inputs.moveEvent_error fails) cause (Except.error.inj same)
  · exact .settled nofun
  · exact .arrival

theorem setsOut_moveToSample (session : Session) (move : Move) (target position : Point) :
    (Slot.ofOutcome (world.moveToSample session move target position).1
      (world.moveToSample session move target position).2).SetsOut := by
  unfold moveToSample
  split
  next fails =>
    exact .settled fun cause same =>
      Store.mouse_inside (Inputs.moveEvent_error fails) cause (Except.error.inj same)
  · exact .sample
  · exact .step

end World

/-- A move that has set out does not turn back. -/
theorem Slot.SetsOut.onward {slot : Slot} (h : slot.SetsOut) (context : Context)
    (duration : UInt64) (world : World) : (slot.step context duration world).2.SetsOut := by
  cases h with
  | settled inside => exact .settled inside
  | sample =>
    unfold Slot.step Wait.resume Wait.takeSample
    dsimp only
    split
    · exact World.setsOut_moveToSample ..
    · exact World.setsOut_moveToTarget ..
  | step =>
    unfold Slot.step Wait.resume
    dsimp only
    split
    · exact .settled nofun
    · split
      next fails =>
        exact .settled fun cause same =>
          Store.mouse_inside (Inputs.arrive_error fails) cause (Except.error.inj same)
      · exact .sample
  | arrival =>
    unfold Slot.step Wait.resume
    dsimp only
    split
    · exact .settled nofun
    · split
      next fails =>
        exact .settled fun cause same =>
          Store.mouse_inside (Inputs.arrive_error fails) cause (Except.error.inj same)
      · exact .settled nofun

/-- Nothing about the geometry is asked once a move has set out. -/
theorem Slot.SetsOut.not_denied {passage : Passage} (h : passage.slot.SetsOut)
    (error : HostError) : ¬ passage.Denied error := by
  rintro ⟨wake, wait, waits, measuring, -⟩
  rw [waits] at h
  cases h <;> cases measuring

/-! ### Where a move stops -/

/-- Why a move with these sections has stopped before it set out. -/
inductive Action.Stops (action : Action) (context : Context) (past : List Passage)
    (origin : Origin) (dx dy : Int64) : Except ActionError Unit → Prop
  /-- Its name is not that of a mouse. -/
  | foreign {error} (granted : ∀ passage ∈ past, ∀ error, ¬ passage.Denied error)
      (foreign : ∀ begun ∈ past, ∀ other, begun.slot = .ready other →
        ¬ begun.world.inputs.IsMouse action.id) :
      Stops action context past origin dx dy (.error error)
  /-- The surface did not answer a question about its geometry. -/
  | denied {error} (occurs : ∃ passage ∈ past, passage.Denied error)
      (only : ∀ passage ∈ past, ∀ other, passage.Denied other → other = error) :
      Stops action context past origin dx dy (.error (.host error))
  /-- The target is out of bounds. -/
  | strays {cause base view} (granted : ∀ passage ∈ past, ∀ error, ¬ passage.Denied error)
      (measured : origin.Measured action context past base view)
      (outside : ¬ view.Reaches base dx dy) :
      Stops action context past origin dx dy (.error (.moveTargetOutOfBounds cause))

/-- How far a move with these sections has come. -/
inductive Action.Probes (action : Action) (context : Context) (past : List Passage)
    (origin : Origin) (dx dy : Int64) : Slot → Prop
  | begins (fresh : past = []) : Probes action context past origin dx dy (.ready action)
  /-- It asks about the geometry. -/
  | asks {wake wait} (measuring : wait.isMeasuring = true)
      (calm : ∀ passage ∈ past, passage.Harmless)
      (granted : ∀ passage ∈ past, ∀ error, ¬ passage.Denied error) :
      Probes action context past origin dx dy (.waiting wake wait)
  | stops {result} (calm : ∀ passage ∈ past, passage.Harmless)
      (reason : action.Stops context past origin dx dy result) :
      Probes action context past origin dx dy (.settled result)
  | goes {slot base view} (granted : ∀ passage ∈ past, ∀ error, ¬ passage.Denied error)
      (measured : origin.Measured action context past base view)
      (inside : view.Reaches base dx dy) (setsOut : slot.SetsOut) :
      Probes action context past origin dx dy slot

/-- A move that knows its base and the viewport fails at once if its target is outside. -/
theorem Slot.step_outside_iff {wake : Nat} {move : Move} {base : Point} (context : Context)
    (duration : UInt64) (world : World) :
    (∃ cause, ((Slot.waiting wake (.viewport move base none)).step context duration world).2 =
        .settled (.error (.moveTargetOutOfBounds cause))) ↔
      ¬ world.host.viewport.Reaches base move.dx move.dy := by
  rw [← Motion.target_iff]
  unfold step Wait.resume Wait.setOut
  dsimp only
  cases reached : Motion.target world.host.viewport base move.dx move.dy with
  | error cause => exact ⟨fun _ => nofun, fun _ => ⟨cause, rfl⟩⟩
  | ok target =>
    refine ⟨?_, fun outside => absurd ⟨target, rfl⟩ outside⟩
    rintro ⟨cause, fails⟩
    have setsOut : (Slot.settled (.error (.moveTargetOutOfBounds cause))).SetsOut := by
      rw [← fails]
      dsimp only
      split
      · exact World.setsOut_moveToTarget ..
      · exact .sample
    cases setsOut with
    | settled inside => exact absurd rfl (inside cause)

section
variable {action : Action} {context : Context} {past : List Passage} {origin : Origin}
  {dx dy : Int64} {gesture : Option UInt64} {duration : UInt64}

theorem Origin.Measured.later {base : Point} {view : Viewport}
    (h : origin.Measured action context past base view) (last : Passage) :
    origin.Measured action context (past ++ [last]) base view := by
  obtain ⟨measured, member, wake, move, heard, shows, based⟩ := h
  exact ⟨measured, List.mem_append_left _ member, wake, move, heard, shows, based.later last⟩

/-- A move that has stopped had its reason before. -/
theorem Action.Stops.later {result : Except ActionError Unit}
    (h : action.Stops context past origin dx dy result) {last : Passage}
    (settled : last.slot = .settled result) :
    action.Stops context (past ++ [last]) origin dx dy result := by
  have denied := Passage.not_denied_of_settled settled
  cases h with
  | foreign granted foreign =>
    refine .foreign (List.forall_mem_append.mpr ⟨granted, List.forall_mem_singleton.mpr denied⟩) ?_
    refine List.forall_mem_append.mpr ⟨foreign, List.forall_mem_singleton.mpr fun other ready => ?_⟩
    cases settled.symm.trans ready
  | denied occurs only =>
    obtain ⟨passage, member, failed⟩ := occurs
    refine .denied ⟨passage, List.mem_append_left _ member, failed⟩ ?_
    exact List.forall_mem_append.mpr
      ⟨only, List.forall_mem_singleton.mpr fun other failed => absurd failed (denied other)⟩
  | strays granted measured outside =>
    exact .strays (List.forall_mem_append.mpr ⟨granted, List.forall_mem_singleton.mpr denied⟩)
      (measured.later last) outside

/-- What a move is measured from when it asks for the viewport. -/
theorem Action.Course.base {wake : Nat} {move : Move} {base : Point} {refusal : Option HostError}
    (h : action.Course context duration past (.waiting wake (.viewport move base refusal)))
    (moves : action.gesture = .pointerMove gesture origin dx dy) :
    origin.Base action context past base ∧ move.dx = dx ∧ move.dy = dy := by
  generalize stands : Slot.waiting wake (.viewport move base refusal) = slot at h
  cases h with
  | begins => cases stands
  | @goesOn past slot before spot world =>
    have live : slot.isSettled = false := by
      cases slot with
      | settled => cases stands
      | _ => rfl
    have heads : action.Heads context _ _ (slot.step context duration world).2 :=
      before.heads live moves spot world
    rw [← stands] at heads
    cases heads with
    | measures again _ based =>
      cases moves.symm.trans again
      exact ⟨based, rfl, rfl⟩
    | goes _ approaches => cases approaches

/-- The first section of a move. -/
private theorem Action.probes_begin (moves : action.gesture = .pointerMove gesture origin dx dy)
    (spot : Spot) (duration : UInt64) (world : World) :
    let passage : Passage := ⟨spot, context, duration, .ready action, world⟩
    action.Probes context [passage] origin dx dy passage.next := by
  intro passage
  have stepped : (Slot.ready action).step context duration world = (passage.after, passage.next) :=
    rfl
  have granted : ∀ other ∈ [passage], ∀ error, ¬ other.Denied error :=
    List.forall_mem_singleton.mpr (Passage.not_denied_of_ready rfl)
  unfold Slot.step Action.begin at stepped
  simp only [moves, Action.beginPointerMove] at stepped
  split at stepped
  next error missing =>
    obtain ⟨after, next⟩ := Prod.mk.inj stepped
    rw [← next]
    refine .stops (List.forall_mem_singleton.mpr ?_) (.foreign granted ?_)
    · exact Passage.harmless_of_world (by rw [← after]) (by rw [← after])
    · refine List.forall_mem_singleton.mpr fun _ _ mouse => ?_
      obtain ⟨source, found⟩ := mouse.found
      cases missing.symm.trans found
  next source found =>
    cases origin with
    | viewport | pointer | element =>
      obtain ⟨after, next⟩ := Prod.mk.inj stepped
      rw [← next]
      refine .asks rfl (List.forall_mem_singleton.mpr ?_) granted
      exact Passage.harmless_of_world (by rw [← after]; rfl) (by rw [← after]; rfl)

/-- A question about the geometry that is not answered stops the move. -/
private theorem Action.Probes.deny {passage : Passage} {wake : Nat} {wait : Wait}
    {error : HostError} (calm : ∀ other ∈ past, other.Harmless)
    (granted : ∀ other ∈ past, ∀ error, ¬ other.Denied error)
    (waits : passage.slot = .waiting wake wait) (measuring : wait.isMeasuring = true)
    (fails : wait.failure? passage.context.mode passage.world.host = some error)
    (still : passage.after = passage.world) :
    action.Probes context (past ++ [passage]) origin dx dy passage.next := by
  have idle : wait.lift? = none := by cases wait <;> first | rfl | cases measuring
  rw [Passage.settles waits fails, Wait.report_of_none idle]
  have harmless : passage.Harmless := Passage.harmless_of_world (by rw [still]) (by rw [still])
  refine .stops (List.forall_mem_append.mpr ⟨calm, List.forall_mem_singleton.mpr harmless⟩)
    (.denied ⟨passage, List.mem_append_right _ List.mem_cons_self, wake, wait, waits, measuring,
      fails⟩ ?_)
  refine List.forall_mem_append.mpr ⟨fun other member _ denied => ?_, ?_⟩
  · exact absurd denied (granted other member _)
  · refine List.forall_mem_singleton.mpr ?_
    rintro other ⟨_, _, again, -, fails'⟩
    cases waits.symm.trans again
    exact Option.some.inj (fails'.symm.trans fails)

/-- A section of a move leads it on, or it stops for a reason. -/
theorem Action.Probes.step {slot : Slot} (h : action.Probes context past origin dx dy slot)
    (course : action.Course context duration past slot)
    (moves : action.gesture = .pointerMove gesture origin dx dy) (spot : Spot) (world : World) :
    let passage : Passage := ⟨spot, context, duration, slot, world⟩
    action.Probes context (past ++ [passage]) origin dx dy passage.next := by
  intro passage
  have both {property : Passage → Prop} (old : ∀ other ∈ past, property other)
      (new : property passage) : ∀ other ∈ past ++ [passage], property other :=
    List.forall_mem_append.mpr ⟨old, List.forall_mem_singleton.mpr new⟩
  cases h with
  | begins fresh =>
    subst fresh
    exact Action.probes_begin moves spot duration world
  | @stops result calm reason =>
    exact .stops (both calm (Passage.harmless_of_settled rfl)) (reason.later rfl)
  | goes granted measured inside setsOut =>
    exact .goes (both granted setsOut.not_denied) (measured.later passage) inside
      (setsOut.onward context duration world)
  | @asks wake wait measuring calm granted =>
    have stepped : (Slot.waiting wake wait).step context duration world =
      (passage.after, passage.next) := rfl
    cases wait with
    | center move ref refusal =>
      cases refusal with
      | some error => exact .deny calm granted rfl rfl rfl rfl
      | none =>
        cases shows : world.host.center ref context.mode with
        | error error =>
          have fails : (Wait.center move ref none).failure? context.mode world.host =
            some error := by simp only [Wait.failure?, shows]
          have still : passage.after = world := by
            simp only [Slot.step, Wait.resume, shows] at stepped
            exact (Prod.mk.inj stepped).1.symm
          exact .deny calm granted rfl rfl fails still
        | ok base =>
          simp only [Slot.step, Wait.resume, shows] at stepped
          obtain ⟨after, next⟩ := Prod.mk.inj stepped
          rw [← next]
          refine .asks rfl (both calm ?_) (both granted ?_)
          · exact Passage.harmless_of_world (by rw [← after]; rfl) (by rw [← after]; rfl)
          · rintro error ⟨_, _, waits, -, fails⟩
            cases waits
            simp only [Wait.failure?, passage, shows, reduceCtorEq] at fails
    | viewport move base refusal =>
      cases refusal with
      | some error => exact .deny calm granted rfl rfl rfl rfl
      | none =>
        obtain ⟨based, rfl, rfl⟩ := course.base moves
        have granted : ∀ other ∈ past ++ [passage], ∀ error, ¬ other.Denied error := by
          refine both granted ?_
          rintro error ⟨_, _, waits, -, fails⟩
          cases waits
          cases fails
        have measured : origin.Measured action context (past ++ [passage]) base
            world.host.viewport :=
          ⟨passage, List.mem_append_right _ List.mem_cons_self, wake, move, rfl, rfl,
            based.later passage⟩
        simp only [Slot.step, Wait.resume, Wait.setOut] at stepped
        split at stepped
        next cause fails =>
          obtain ⟨after, next⟩ := Prod.mk.inj stepped
          rw [← next]
          refine .stops (both calm ?_) (.strays granted measured ?_)
          · exact Passage.harmless_of_world (by rw [← after]) (by rw [← after])
          · rw [← Motion.target_iff]
            rintro ⟨target, reached⟩
            cases fails.symm.trans reached
        next target reached =>
          have inside := (Motion.target_iff _ _ _ _).mp ⟨target, reached⟩
          refine .goes granted measured inside ?_
          rw [← (Prod.mk.inj stepped).2]
          split
          · exact World.setsOut_moveToTarget ..
          · exact .sample
    | _ => cases measuring

/-- What has become of a move at any time. -/
theorem Action.Course.probes {slot : Slot} (h : action.Course context duration past slot)
    (moves : action.gesture = .pointerMove gesture origin dx dy) :
    action.Probes context past origin dx dy slot := by
  -- Each section goes on from what the sections before it have come to.
  induction h with
  | begins => exact .begins rfl
  | goesOn before spot world ih => exact ih.step before moves spot world

end

/-! ### Histories -/

namespace Schedule

variable {session : Session} {joins : Schedule → Request → Prop}
  {moves : Schedule → Schedule → Prop} {s : Schedule} {log : List Advance} {host : Host}

/-- Bounds come first. Whatever runs together on a fresh session and however the surface answers,
the section in which a move hears what the viewport is fails with a target out of bounds exactly if
a sum of base and offset, taken as integers, is outside. So when a move of a mouse has settled and
the surface has answered all its questions, it has failed like that exactly if its target was
outside. A move whose question is refused fails with the error of the surface. In both cases none of
its sections has told the surface anything or has changed the inputs. -/
theorem bounds_come_first (h : Chronicle joins moves ⟨session, .initial host, []⟩ s log) :
    ∀ early advance late passage, log = early ++ advance :: late →
      advance.passage? = some passage →
      let sections := (trail (early ++ [advance])).filter (·.spot = passage.spot)
      ∀ begun ∈ sections, ∀ action duration origin dx dy, begun.slot = .ready action →
        action.gesture = .pointerMove duration origin dx dy →
        (∀ wake move base, passage.slot = .waiting wake (.viewport move base none) →
          origin.Base action passage.context sections base ∧
            ((∃ cause, passage.next = .settled (.error (.moveTargetOutOfBounds cause))) ↔
              ¬ passage.world.host.viewport.Reaches base dx dy)) ∧
        ∀ result, passage.next = .settled result →
          (begun.world.inputs.IsMouse action.id →
            (∀ part ∈ sections, ∀ error, ¬ part.Denied error) →
            ∃ base view, origin.Measured action passage.context sections base view ∧
              ((∃ cause, result = .error (.moveTargetOutOfBounds cause)) ↔
                ¬ view.Reaches base dx dy)) ∧
          (∀ part ∈ sections, ∀ error, part.Denied error → result = .error (.host error)) ∧
          ((∃ cause, result = .error (.moveTargetOutOfBounds cause)) ∨
              (∃ part ∈ sections, ∃ error, part.Denied error) →
            ∀ part ∈ sections, part.Harmless) := by
  rintro early advance late passage rfl passes sections begun member action duration origin dx dy
    first gesture
  obtain ⟨whole, course⟩ := h.course rfl passes
  have course : whole.Course passage.context passage.duration
      ((trail early).filter (·.spot = passage.spot)) passage.slot := course
  have sections_eq : sections = (trail early).filter (·.spot = passage.spot) ++ [passage] := by
    simp [sections, trail_concat, passes]
  have goesOn := course.goesOn passage.spot passage.world
  have same : action = whole :=
    goesOn.ready_eq.1 begun (sections_eq ▸ member) action first
  subst same
  have probes : action.Probes passage.context sections origin dx dy passage.next :=
    sections_eq ▸ goesOn.probes gesture
  refine ⟨fun wake move base waits => ?_, fun result settles => ?_⟩
  · rw [waits] at course
    obtain ⟨based, rfl, rfl⟩ := course.base gesture
    refine ⟨sections_eq ▸ based.later passage, ?_⟩
    rw [Passage.next, waits]
    exact Slot.step_outside_iff ..
  · rw [settles] at probes
    cases probes with
    | stops calm reason =>
      refine ⟨fun mouse fine => ?_, fun part listed error denied => ?_, fun _ => calm⟩
      · cases reason with
        | foreign _ foreign => exact absurd mouse (foreign begun member action first)
        | denied occurs =>
          obtain ⟨part, listed, denied⟩ := occurs
          exact absurd denied (fine part listed _)
        | strays _ measured outside =>
          exact ⟨_, _, measured, fun _ => outside, fun _ => ⟨_, rfl⟩⟩
      · cases reason with
        | foreign granted | strays granted => exact absurd denied (granted part listed error)
        | denied _ only => rw [only part listed error denied]
    | goes granted measured inside setsOut =>
      cases setsOut with
      | settled fine =>
        refine ⟨fun _ _ => ⟨_, _, measured, ?_, fun outside => absurd inside outside⟩,
          fun part listed error denied => absurd denied (granted part listed error), ?_⟩
        · rintro ⟨cause, fails⟩
          exact absurd fails (fine cause)
        · rintro (⟨cause, fails⟩ | ⟨part, listed, error, denied⟩)
          · exact absurd fails (fine cause)
          · exact absurd denied (granted part listed error)

/-- A mouse moves into the viewport and then as far to the right as coordinates go. -/
def overshooting : Schedule :=
  let fresh : Schedule := ⟨.ofConfig .standard, .initial (.prompt .standard), []⟩
  fresh.join 0 (.perform [[moving .viewport 10 20], [moving .pointer Int64.maxValue 0]] none)

/-- The sum overflows, and nothing happens. -/
theorem overshooting_fails :
    let log := overshooting.annals 8
    Chronicle (fun _ _ => True) (fun _ _ => True)
        ⟨.ofConfig .standard, .initial (.prompt .standard), []⟩ (overshooting.steps 8) log ∧
      ∃ advance ∈ log, ∃ passage sections, advance.passage? = some passage ∧
        (∃ cause, passage.next = .settled (.error (.moveTargetOutOfBounds cause))) ∧
        (∃ base view, Origin.pointer.Measured (moving .pointer Int64.maxValue 0) passage.context
          sections base view ∧ ¬ view.Reaches base Int64.maxValue 0) ∧
        ∀ part ∈ sections, part.Harmless := by
  intro log
  have begun : Chronicle (fun _ _ => True) (fun _ _ => True)
      ⟨.ofConfig .standard, .initial (.prompt .standard), []⟩ overshooting [] :=
    Chronicle.begins.join 0 _ trivial
  have chronicle := begun.steps (fun _ _ => trivial) 8
  rw [List.nil_append] at chronicle
  refine ⟨chronicle, ?_⟩
  -- The section in which the second move settles, with the one in which it began.
  have settles : (log[6]?.bind fun advance => advance.passage?.map fun passage =>
      (passage.next.error?,
        ((trail (log.take 6 ++ [advance])).filter (·.spot = passage.spot)).filterMap fun part =>
          part.slot.action?.map fun action =>
            (action, part.world.inputs.store.kind? action.id))) =
      some (some (.moveTargetOutOfBounds (.overflow ⟨10, 20⟩ Int64.maxValue 0)),
        [(moving .pointer Int64.maxValue 0, some (.pointer .mouse))]) := by
    decide +kernel
  obtain ⟨advance, found, settles⟩ := Option.bind_eq_some_iff.mp settles
  obtain ⟨passage, passes, settles⟩ := Option.map_eq_some_iff.mp settles
  obtain ⟨fails, began⟩ := Prod.mk.inj settles
  have ends := Slot.eq_settled_of_error? fails
  obtain ⟨first, member, ready⟩ := List.mem_filterMap.mp (began ▸ List.mem_cons_self)
  obtain ⟨action, ready, same⟩ := Option.map_eq_some_iff.mp ready
  obtain ⟨rfl, mouse⟩ := Prod.mk.inj same
  obtain ⟨short, rfl⟩ := List.getElem?_eq_some_iff.mp found
  have split : log = log.take 6 ++ log[6] :: log.drop 7 := by
    rw [List.getElem_cons_drop, List.take_append_drop]
  obtain ⟨-, stops⟩ := bounds_come_first chronicle _ _ _ passage split passes first member
    (moving .pointer Int64.maxValue 0) none .pointer Int64.maxValue 0 (Slot.eq_ready ready) rfl
  obtain ⟨outside, denied, harmless⟩ := stops _ ends
  have fine : ∀ part ∈ (trail (log.take 6 ++ [log[6]])).filter (·.spot = passage.spot), ∀ error,
      ¬ part.Denied error :=
    fun part listed error refused => nomatch denied part listed error refused
  obtain ⟨base, view, measured, iff⟩ := outside mouse fine
  exact ⟨_, List.mem_of_getElem? found, passage, _, passes, ⟨_, ends⟩,
    ⟨base, view, measured, iff.mp ⟨_, rfl⟩⟩, harmless (Or.inl ⟨_, rfl⟩)⟩

end Schedule

end InputActions
