import InputActions.Session.Activity

/-!
# What actions leave of the surface

Actions add to the tally, the journal, the answers and the click resets of the surface, and to
nothing else. What it shows, what it refuses and how long it takes do not depend on them
(`Slot.step_surface`).
-/
namespace InputActions

/-- The surface without what actions leave on it. -/
def Host.surface (host : Host) : Host :=
  { host with clickResets := 0, tally := ⟨0, 0, 0⟩, journal := [], answered := [] }

theorem Host.injectionRefusal_eq {host other : Host} (h : host.surface = other.surface) :
    host.injectionRefusal = other.injectionRefusal := by
  have same := congrArg (fun host : Host => host.injectionRefusal) h
  exact same

theorem Host.viewport_eq {host other : Host} (h : host.surface = other.surface) :
    host.viewport = other.viewport := by
  have same := congrArg (fun host : Host => host.viewport) h
  exact same

namespace World

theorem surface_resetClick (world : World) :
    world.resetClick.host.surface = world.host.surface := by
  unfold resetClick Host.resetClick
  dsimp only
  split <;> rfl

theorem surface_moveToTarget (world : World) (id : SourceId) (target : Point) :
    (world.moveToTarget id target).1.host.surface = world.host.surface := by
  unfold moveToTarget
  split <;> rfl

theorem surface_moveToSample (world : World) (session : Session) (move : Move)
    (target position : Point) :
    (world.moveToSample session move target position).1.host.surface = world.host.surface := by
  unfold moveToSample
  split <;> rfl

end World

namespace Action

theorem surface_beginPointerDown (action : Action) (context : Context) (button : UInt32)
    (world : World) :
    (action.beginPointerDown context button world).1.host.surface = world.host.surface := by
  unfold beginPointerDown
  split
  · rfl
  · rfl
  · dsimp only
    split
    · exact World.surface_resetClick _
    · rfl

theorem surface_beginPointerMove (action : Action) (duration : UInt64) (origin : Origin)
    (dx dy : Int64) (world : World) :
    (action.beginPointerMove duration origin dx dy world).1.host.surface = world.host.surface := by
  unfold beginPointerMove
  split
  · rfl
  · split <;> rfl

theorem begin_surface (action : Action) (context : Context) (tickDuration : UInt64)
    (world : World) :
    (action.begin context tickDuration world).1.host.surface = world.host.surface := by
  unfold begin
  split
  · dsimp only
    split <;> rfl
  · unfold beginKeyDown
    split <;> rfl
  · unfold beginKeyUp
    split <;> rfl
  · exact surface_beginPointerDown ..
  · unfold beginPointerUp
    split <;> rfl
  · exact surface_beginPointerMove ..
  · rfl

end Action

namespace Wait

theorem surface_refused (error : HostError) (restored : Except InvalidArgument Inputs)
    (world : World) : (refused error restored world).1.host.surface = world.host.surface := by
  unfold refused
  split <;> rfl

theorem surface_setOut (context : Context) (move : Move) (base : Point) (world : World) :
    (setOut context move base world).1.host.surface = world.host.surface := by
  unfold setOut
  split
  · rfl
  · split
    · exact World.surface_moveToTarget ..
    · rfl

theorem surface_takeSample (context : Context) (move : Move) (target : Point) (world : World) :
    (takeSample context move target world).1.host.surface = world.host.surface := by
  unfold takeSample
  dsimp only
  split
  · exact World.surface_moveToSample ..
  · exact World.surface_moveToTarget ..

theorem resume_surface (wait : Wait) (context : Context) (world : World) :
    (wait.resume context world).1.host.surface = world.host.surface := by
  cases wait with
  | pause => rfl
  | keydown id event printable verdict =>
    dsimp only [resume]
    split
    · rfl
    · unfold afterKeydown
      dsimp only
      split <;> rfl
  | keypress verdict =>
    dsimp only [resume]
    split <;> rfl
  | keyup id key verdict =>
    dsimp only [resume]
    split
    · exact surface_refused ..
    · rfl
  | mousedown id event opensMenu verdict =>
    dsimp only [resume]
    split
    · rfl
    · split <;> rfl
  | contextmenu verdict =>
    dsimp only [resume]
    split <;> rfl
  | mouseup id button verdict =>
    dsimp only [resume]
    split
    · exact surface_refused ..
    · rfl
  | center move ref refusal =>
    dsimp only [resume]
    split
    · rfl
    · split <;> rfl
  | viewport move base refusal =>
    dsimp only [resume]
    split
    · rfl
    · exact surface_setOut ..
  | sample move target => exact surface_takeSample ..
  | step move target position verdict =>
    dsimp only [resume]
    split
    · rfl
    · split <;> rfl
  | arrival id target verdict =>
    dsimp only [resume]
    split
    · rfl
    · split <;> rfl

end Wait

/-- A section leaves the surface as it is. -/
theorem Slot.step_surface (slot : Slot) (context : Context) (duration : UInt64) (world : World) :
    (slot.step context duration world).1.host.surface = world.host.surface := by
  cases slot with
  | ready action => exact action.begin_surface context duration world
  | waiting wake wait => exact wait.resume_surface context world
  | settled result => rfl

end InputActions
