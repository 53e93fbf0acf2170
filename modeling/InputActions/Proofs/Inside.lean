import InputActions.Proofs.Sampling
import InputActions.Proofs.Section

/-!
# Inside the viewport

Only the target of a move is compared with the viewport, once, before the move sets out. That is
enough for everything the surface sees: pointers begin at the origin and go from one sample to the
next, and a sample lies between a position read earlier and a target that was compared. `Inside`
says of sources, events, waits and slots that all their points are inside, and every section of an
action keeps it (`Slot.step_inside`).
-/
namespace InputActions

/-! ### Points of a viewport -/

/-- A viewport whose sizes floating point numbers represent. -/
structure Viewport.IsExact (view : Viewport) : Prop where
  width : 0 ≤ view.width.toInt ∧ view.width.toInt ≤ 2 ^ 53
  height : 0 ≤ view.height.toInt ∧ view.height.toInt ≤ 2 ^ 53

/-- Whether a point lies in a viewport. -/
def Viewport.Admits (view : Viewport) (point : Point) : Prop :=
  (0 ≤ point.x.toInt ∧ point.x.toInt ≤ view.width.toInt) ∧
    (0 ≤ point.y.toInt ∧ point.y.toInt ≤ view.height.toInt)

namespace Viewport

variable {view : Viewport}

theorem admits_iff (point : Point) : view.Admits point ↔ view.contains point = true := by
  rw [contains_iff]
  simp only [Int64.le_iff_toInt_le, Int64.toInt_zero, Admits]

theorem IsExact.admits_origin (sized : view.IsExact) : view.Admits .origin :=
  ⟨⟨le_refl _, sized.width.1⟩, le_refl _, sized.height.1⟩

theorem admits_target {base target : Point} {dx dy : Int64}
    (h : Motion.target view base dx dy = .ok target) : view.Admits target := by
  unfold Motion.target at h
  split at h
  · cases h
  · split at h
    next inside => cases h; exact (admits_iff _).mpr inside
    · cases h

/-- A sample lies in the viewport if both ends of the way do. -/
theorem IsExact.admits_interpolate (sized : view.IsExact) {start target : Point}
    (hs : view.Admits start) (ht : view.Admits target) {elapsed : Nat} {duration : UInt64}
    (left : elapsed < duration.toNat) :
    view.Admits (Motion.interpolate start target (Motion.share elapsed duration)) := by
  obtain ⟨part, share, nonneg, whole⟩ := Motion.share_mem left
  rw [share]
  exact ⟨Motion.between_mem nonneg whole (le_refl 0) sized.width.2 hs.1 ht.1,
    Motion.between_mem nonneg whole (le_refl 0) sized.height.2 hs.2 ht.2⟩

end Viewport

/-! ### Everything that has a point -/

/-- Whether a pointer is inside; the other sources have no position. -/
def Source.Inside (view : Viewport) : Source → Prop
  | .pointer s => view.Admits s.position
  | _ => True

/-- Whether all pointers are inside. -/
def Store.Inside (view : Viewport) (store : Store) : Prop :=
  ∀ (id : SourceId) (source : Source), store[id]? = some source → source.Inside view

/-- Whether a mouse event is inside; the other events have no position. -/
def Event.Inside (view : Viewport) : Event → Prop
  | .mouse event => view.Admits event.position
  | .key _ => True

/-- Whether every point that the rest of an action will use is inside. -/
def Wait.Inside (view : Viewport) : Wait → Prop
  | .mousedown _ event _ _ => view.Admits event.position
  | .center move _ _ => view.Admits move.start
  | .viewport move _ _ => view.Admits move.start
  | .sample move target => view.Admits move.start ∧ view.Admits target
  | .step move target position _ =>
    view.Admits move.start ∧ view.Admits target ∧ view.Admits position
  | .arrival _ target _ => view.Admits target
  | _ => True

def Slot.Inside (view : Viewport) : Slot → Prop
  | .waiting _ wait => wait.Inside view
  | _ => True

namespace Store.Inside

variable {view : Viewport} {store next : Store} {source : Source}

theorem empty : Inside view ∅ := fun id source found => by
  rw [Std.ExtTreeMap.getElem?_empty] at found
  cases found

theorem put (h : store.Inside view) (id : SourceId) (new : source.Inside view) :
    Inside view (store.insert id source) := by
  intro other placed found
  rw [getElem?_put] at found
  split at found
  · exact Option.some.inj found ▸ new
  · exact h other placed found

/-- A fresh pointer is at the origin. -/
theorem grows (h : store.Inside view) (sized : view.IsExact) (grown : store.Grows next) :
    next.Inside view := by
  intro id source found
  rcases grown.adds found with old | ⟨kind, rfl⟩
  · exact h id source old
  · cases kind with
    | pointer => exact sized.admits_origin
    | _ => trivial

end Store.Inside

namespace Inputs

/-- A press of a button happens where the pointer is. -/
theorem pressButton_position {inputs next : Inputs} {action : Action} {button : UInt32}
    {event : MouseEvent} (h : inputs.pressButton action button = .ok (some (event, next))) :
    ∃ s, inputs.store[action.id]? = some (.pointer s) ∧ event.position = s.position := by
  unfold pressButton at h
  cases found : inputs.store.mouse action.id with
  | error error => simp [found, bind, Except.bind] at h
  | ok s =>
    refine ⟨s, (Store.mouse_eq_ok found).1, ?_⟩
    simp only [found, bind, Except.bind, pure, Except.pure] at h
    split at h <;> cases h
    rfl

/-- A lift of a button happens where the pointer is. -/
theorem liftButton_position {inputs next : Inputs} {action : Action} {button : UInt32}
    {event : MouseEvent} (h : inputs.liftButton action button = .ok (some (event, next))) :
    ∃ s, inputs.store[action.id]? = some (.pointer s) ∧ event.position = s.position := by
  unfold liftButton at h
  cases found : inputs.store.mouse action.id with
  | error error => simp [found, bind, Except.bind] at h
  | ok s =>
    refine ⟨s, (Store.mouse_eq_ok found).1, ?_⟩
    simp only [found, bind, Except.bind, pure, Except.pure] at h
    split at h <;> cases h
    rfl

theorem moveEvent_position {inputs : Inputs} {id : SourceId} {target : Point} {event : MouseEvent}
    (h : inputs.moveEvent id target = .ok (some event)) : event.position = target := by
  unfold moveEvent at h
  cases found : inputs.store.mouse id with
  | error error => simp [found, bind, Except.bind] at h
  | ok s =>
    simp only [found, bind, Except.bind, pure, Except.pure] at h
    split at h <;> cases h
    rfl

end Inputs

/-! ### Sections -/

/-- The journal goes on with events inside the viewport. -/
def World.Shows (view : Viewport) (before after : World) : Prop :=
  ∃ added, after.host.journal = before.host.journal ++ added ∧
    ∀ injection ∈ added, injection.event.Inside view

theorem World.Shows.of_same {view : Viewport} {before after : World}
    (same : after.host.journal = before.host.journal) : before.Shows view after :=
  ⟨[], by rw [same, List.append_nil], by simp⟩

/-- A section that leaves every point inside. -/
structure Stays (view : Viewport) (before : World) (result : World × Outcome) : Prop where
  store : result.1.inputs.store.Inside view
  shows : before.Shows view result.1
  next : (Slot.ofOutcome result.1 result.2).Inside view

namespace Stays

variable {view : Viewport} {before world : World}

theorem done (store : world.inputs.store.Inside view)
    (same : world.host.journal = before.host.journal) : Stays view before (world, .done) :=
  ⟨store, .of_same same, trivial⟩

theorem failed {error : ActionError} (store : world.inputs.store.Inside view)
    (same : world.host.journal = before.host.journal) : Stays view before (world, .failed error) :=
  ⟨store, .of_same same, trivial⟩

theorem request {id : SourceId} {event : Event} {wait : Verdict → Wait}
    (store : world.inputs.store.Inside view) (same : world.host.journal = before.host.journal)
    (inside : event.Inside view) (next : ∀ verdict, (wait verdict).Inside view) :
    Stays view before (world.request id event wait) := by
  refine ⟨store, ⟨[_], congrArg (· ++ _) same, ?_⟩, next _⟩
  intro injection member
  rw [List.mem_singleton.mp member]
  exact inside

theorem moveToTarget {id : SourceId} {target : Point} (store : world.inputs.store.Inside view)
    (same : world.host.journal = before.host.journal) (inside : view.Admits target) :
    Stays view before (world.moveToTarget id target) := by
  unfold World.moveToTarget
  split
  · exact failed store same
  · exact done store same
  next event moves =>
    have position := Inputs.moveEvent_position moves
    exact request store same (by rw [← position] at inside; exact inside) fun _ => inside

theorem moveToSample {session : Session} {move : Move} {target position : Point}
    (store : world.inputs.store.Inside view) (same : world.host.journal = before.host.journal)
    (start : view.Admits move.start) (inside : view.Admits target)
    (sample : view.Admits position) :
    Stays view before (world.moveToSample session move target position) := by
  unfold World.moveToSample
  split
  · exact failed store same
  · exact ⟨store, .of_same same, start, inside⟩
  next event moves =>
    have seen := Inputs.moveEvent_position moves
    exact request store same (by rw [← seen] at sample; exact sample)
      fun _ => ⟨start, inside, sample⟩

end Stays

section
variable {view : Viewport} {world : World} (store : world.inputs.store.Inside view)
include store

private theorem stays_keyDown (action : Action) (value : String) :
    Stays view world (action.beginKeyDown value world) := by
  unfold Action.beginKeyDown
  split
  · exact .failed store rfl
  next pressed =>
    obtain ⟨s, -, rfl⟩ := Inputs.pressKey_cases pressed
    have key : (Source.key (s.hold (Key.normalized value))).Inside view := trivial
    exact .request (store.put _ key) rfl trivial fun _ => trivial

private theorem stays_keyUp (action : Action) (value : String) :
    Stays view world (action.beginKeyUp value world) := by
  unfold Action.beginKeyUp
  split
  · exact .failed store rfl
  · exact .done store rfl
  next lifted =>
    obtain ⟨s, -, ⟨-, none⟩ | ⟨-, _, same⟩⟩ := Inputs.liftKey_cases lifted
    · cases none
    · cases same
      have key : (Source.key (s.lift (Key.normalized value))).Inside view := trivial
      exact .request (store.put _ key) rfl trivial fun _ => trivial

private theorem stays_pointerDown (action : Action) (context : Context) (button : UInt32) :
    Stays view world (action.beginPointerDown context button world) := by
  unfold Action.beginPointerDown
  split
  · exact .failed store rfl
  · exact .done store rfl
  next event next pressed =>
    obtain ⟨s, found, position⟩ := Inputs.pressButton_position pressed
    have inside : view.Admits event.position := position ▸ store _ _ found
    have kept : next.store.Inside view := by
      obtain ⟨s, found, -, none | ⟨_, same⟩⟩ := Inputs.pressButton_cases pressed
      · cases none
      · cases same
        have inside : (Source.pointer s).Inside view := store _ _ found
        have held : (Source.pointer (s.hold button)).Inside view := inside
        exact store.put _ held
    have silent (world : World) : world.resetClick.host.journal = world.host.journal := by
      unfold World.resetClick Host.resetClick
      dsimp only
      split <;> rfl
    -- A click of the secondary button, the second of two, or any other: the event stays put.
    dsimp only
    split_ifs
    · exact .request kept (silent _) inside fun _ => inside
    · exact .request kept rfl inside fun _ => inside
    · exact .request kept rfl inside fun _ => inside

private theorem stays_pointerUp (action : Action) (button : UInt32) :
    Stays view world (action.beginPointerUp button world) := by
  unfold Action.beginPointerUp
  split
  · exact .failed store rfl
  · exact .done store rfl
  next event next lifted =>
    obtain ⟨s, found, position⟩ := Inputs.liftButton_position lifted
    have inside : view.Admits event.position := position ▸ store _ _ found
    obtain ⟨s, found, ⟨-, none⟩ | ⟨-, _, same⟩⟩ := Inputs.liftButton_cases lifted
    · cases none
    · cases same
      have inside' : (Source.pointer s).Inside view := store _ _ found
      have lifted : (Source.pointer (s.lift button)).Inside view := inside'
      exact .request (store.put _ lifted) rfl inside fun _ => trivial

private theorem stays_pointerMove (action : Action) (duration : UInt64) (origin : Origin)
    (dx dy : Int64) : Stays view world (action.beginPointerMove duration origin dx dy world) := by
  unfold Action.beginPointerMove
  split
  · exact .failed store rfl
  next s found =>
    have start : view.Admits s.position := store _ _ (Store.mouse_eq_ok found).1
    split <;> exact ⟨store, .of_same rfl, start⟩

/-- The first section of an action. -/
theorem Action.begin_stays (action : Action) (context : Context) (tickDuration : UInt64) :
    Stays view world (action.begin context tickDuration world) := by
  unfold begin
  split
  · dsimp only
    split
    · exact .done store rfl
    · exact ⟨store, .of_same rfl, trivial⟩
  · exact stays_keyDown store ..
  · exact stays_keyUp store ..
  · exact stays_pointerDown store ..
  · exact stays_pointerUp store ..
  · exact stays_pointerMove store ..
  · exact .failed store rfl

private theorem stays_refused {after : World} {error : HostError}
    {restored : Except InvalidArgument Inputs} (same : after.inputs = world.inputs)
    (journal : after.host.journal = world.host.journal)
    (held : ∀ inputs, restored = .ok inputs → inputs.store.Inside view) :
    Stays view world (Wait.refused error restored after) := by
  unfold Wait.refused
  split
  · exact .failed (by rwa [same]) journal
  next inputs => exact .failed (held inputs rfl) journal

private theorem stays_setOut (context : Context) (move : Move) (base : Point)
    (shows : world.host.viewport = view) (start : view.Admits move.start) :
    Stays view world (Wait.setOut context move base world) := by
  unfold Wait.setOut
  split
  · exact .failed store rfl
  next target reached =>
    rw [shows] at reached
    have inside := Viewport.admits_target reached
    split
    · exact .moveToTarget store rfl inside
    · exact ⟨store, .of_same rfl, start, inside⟩

private theorem stays_takeSample (sized : view.IsExact) (context : Context) {move : Move}
    {target : Point} (start : view.Admits move.start) (inside : view.Admits target) :
    Stays view world (Wait.takeSample context move target world) := by
  unfold Wait.takeSample
  dsimp only
  split
  next continues =>
    have left := Motion.elapsed_lt_of_continues continues
    exact .moveToSample store rfl start inside (sized.admits_interpolate start inside left)
  · exact .moveToTarget store rfl inside

private theorem inside_arrive {id : SourceId} {target : Point} {next : Inputs}
    (arrived : world.inputs.arrive id target = .ok next) (inside : view.Admits target) :
    next.store.Inside view := by
  obtain ⟨s, -, rfl⟩ := Inputs.arrive_cases arrived
  have put : (Source.pointer { s with position := target }).Inside view := inside
  exact store.put _ put

/-- Each later section of an action. -/
theorem Wait.resume_stays (sized : view.IsExact) (shows : world.host.viewport = view)
    {wait : Wait} (inside : wait.Inside view) (context : Context) :
    Stays view world (wait.resume context world) := by
  cases wait with
  | pause => exact .done store rfl
  | keydown id event printable verdict =>
    dsimp only [resume]
    split
    · exact .failed store rfl
    · unfold afterKeydown
      dsimp only
      split
      · exact .request store rfl trivial fun _ => trivial
      · exact .done store rfl
  | keypress verdict =>
    dsimp only [resume]
    split
    · exact .failed store rfl
    · exact .done store rfl
  | keyup id key verdict =>
    dsimp only [resume]
    split
    · refine stays_refused store rfl rfl fun inputs held => ?_
      rcases Inputs.holdKey_cases world.inputs id key with ⟨s, -, ok⟩ | ⟨-, _, error⟩
      · cases ok.symm.trans held
        have key : (Source.key (s.hold key)).Inside view := trivial
        exact store.put _ key
      · cases error.symm.trans held
    · exact .done store rfl
  | mousedown id event opensMenu verdict =>
    dsimp only [resume]
    split
    · exact .failed store rfl
    · split
      · exact .request store rfl inside fun _ => trivial
      · exact .done store rfl
  | contextmenu verdict =>
    dsimp only [resume]
    split
    · exact .failed store rfl
    · exact .done store rfl
  | mouseup id button verdict =>
    dsimp only [resume]
    split
    · refine stays_refused store rfl rfl fun inputs held => ?_
      rcases Inputs.holdButton_cases world.inputs id button with ⟨s, found, ok⟩ | ⟨-, _, error⟩
      · cases ok.symm.trans held
        have inside : (Source.pointer s).Inside view := store _ _ found
        have held : (Source.pointer (s.hold button)).Inside view := inside
        exact store.put _ held
      · cases error.symm.trans held
    · exact .done store rfl
  | center move ref refusal =>
    dsimp only [resume]
    split
    · exact .failed store rfl
    · split
      · exact .failed store rfl
      · exact ⟨store, .of_same rfl, inside⟩
  | viewport move base refusal =>
    dsimp only [resume]
    split
    · exact .failed store rfl
    · exact stays_setOut store _ _ _ shows inside
  | sample move target => exact stays_takeSample store sized _ inside.1 inside.2
  | step move target position verdict =>
    obtain ⟨start, inside, sample⟩ := inside
    dsimp only [resume]
    split
    · exact .failed store rfl
    · split
      · exact .failed store rfl
      next arrived =>
        exact ⟨inside_arrive store arrived sample, .of_same rfl, start, inside⟩
  | arrival id target verdict =>
    dsimp only [resume]
    split
    · exact .failed store rfl
    · split
      · exact .failed store rfl
      next arrived => exact .done (inside_arrive store arrived inside) rfl

end

/-- A section keeps everything inside a viewport that does not change. -/
theorem Slot.step_inside {view : Viewport} (sized : view.IsExact) {slot : Slot} {world : World}
    (store : world.inputs.store.Inside view) (shows : world.host.viewport = view)
    (inside : slot.Inside view) (context : Context) (duration : UInt64) :
    (slot.step context duration world).1.inputs.store.Inside view ∧
      world.Shows view (slot.step context duration world).1 ∧
      (slot.step context duration world).2.Inside view := by
  cases slot with
  | ready action =>
    have stays := action.begin_stays store context duration
    exact ⟨stays.store, stays.shows, stays.next⟩
  | waiting wake wait =>
    have stays := Wait.resume_stays store sized shows inside context
    exact ⟨stays.store, stays.shows, stays.next⟩
  | settled result => exact ⟨store, .of_same rfl, trivial⟩

end InputActions
