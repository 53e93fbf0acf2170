import InputActions.Proofs.Section

/-!
# Positions have no part in presses

Putting a pointer somewhere commutes with every press and lift: the same triggers are held, the same
releases are owed, and the same events are reported, except that a mouse event shows where its
pointer is. It also commutes with putting another pointer somewhere, and the last position of a
pointer counts.
-/
namespace InputActions

/-! ### Sources -/

/-- The state of a pointer after the pointer of some name was put somewhere. -/
def PointerSource.moved (id : SourceId) (position : Point) (other : SourceId)
    (s : PointerSource) : PointerSource :=
  if other = id then { s with position := position } else s

/-- The state of a source after the pointer of some name was put somewhere. -/
def Source.moved (id : SourceId) (position : Point) (other : SourceId) : Source → Source
  | .pointer s => .pointer (s.moved id position other)
  | source => source

namespace PointerSource

variable (id other : SourceId) (position : Point) (s : PointerSource)

@[simp] theorem kind_moved : (s.moved id position other).kind = s.kind := by
  unfold moved
  split <;> rfl

@[simp] theorem isPressed_moved (button : UInt32) :
    (s.moved id position other).isPressed button = s.isPressed button := by
  unfold moved
  split <;> rfl

theorem hold_moved (button : UInt32) :
    (s.moved id position other).hold button = (s.hold button).moved id position other := by
  unfold moved
  split <;> rfl

theorem lift_moved (button : UInt32) :
    (s.moved id position other).lift button = (s.lift button).moved id position other := by
  unfold moved
  split <;> rfl

end PointerSource

/-! ### The store -/

namespace Store

variable (store : Store) (id other : SourceId) (position target : Point)

theorem getElem?_setPosition :
    (store.setPosition id position)[other]? =
      store[other]?.map (Source.moved id position other) := by
  unfold setPosition
  split
  next s found =>
    rw [getElem?_put]
    split
    next same =>
      subst same
      simp [found, Source.moved, PointerSource.moved]
    next apart =>
      cases store[other]? with
      | none => rfl
      | some source => cases source <;> simp [Source.moved, PointerSource.moved, apart]
  next none =>
    -- Only a pointer has a position; any other source is left alone.
    by_cases same : other = id
    · subst same
      cases found : store[other]? with
      | none => rfl
      | some source =>
        cases source with
        | pointer s => exact absurd found (none s)
        | _ => rfl
    · cases store[other]? with
      | none => rfl
      | some source => cases source <;> simp [Source.moved, PointerSource.moved, same]

theorem setPosition_eq_map :
    store.setPosition id position = store.map (Source.moved id position) := by
  apply Std.ExtTreeMap.ext_getElem?
  intro other
  rw [getElem?_setPosition, Std.ExtTreeMap.getElem?_map]

theorem setPosition_insert (source : Source) :
    setPosition (store.insert other source) id position =
      (store.setPosition id position).insert other (source.moved id position other) := by
  apply Std.ExtTreeMap.ext_getElem?
  intro third
  rw [getElem?_setPosition, getElem?_put, getElem?_put, getElem?_setPosition]
  by_cases same : third = other
  · subst same
    simp
  · simp [same]

theorem setPosition_comm {id other : SourceId} (apart : id ≠ other) :
    (store.setPosition id position).setPosition other target =
      (store.setPosition other target).setPosition id position := by
  apply Std.ExtTreeMap.ext_getElem?
  intro third
  simp only [getElem?_setPosition, Option.map_map]
  refine congrArg (Option.map · store[third]?) (funext fun source => ?_)
  cases source with
  | pointer s =>
    by_cases first : third = id
    · simp [Source.moved, PointerSource.moved, first, apart]
    · simp [Source.moved, PointerSource.moved, first]
  | _ => rfl

/-- The last position counts. -/
theorem setPosition_setPosition :
    (store.setPosition id position).setPosition id target = store.setPosition id target := by
  apply Std.ExtTreeMap.ext_getElem?
  intro other
  simp only [getElem?_setPosition, Option.map_map]
  refine congrArg (Option.map · store[other]?) (funext fun source => ?_)
  cases source with
  | pointer s =>
    by_cases same : other = id <;> simp [Source.moved, PointerSource.moved, same]
  | _ => rfl

/-- A pointer that is put where it is does not move. -/
theorem setPosition_self {s : PointerSource} (found : store[id]? = some (.pointer s)) :
    store.setPosition id s.position = store := by
  apply Std.ExtTreeMap.ext_getElem?
  intro other
  rw [getElem?_setPosition]
  by_cases same : other = id
  · subst same
    simp [found, Source.moved, PointerSource.moved]
  · cases store[other]? with
    | none => rfl
    | some source => cases source <;> simp [Source.moved, PointerSource.moved, same]

theorem modifiers_setPosition : (store.setPosition id position).modifiers = store.modifiers := by
  unfold modifiers
  -- Flags are those of keyboards, which have no position.
  rw [setPosition_eq_map, Std.ExtTreeMap.toList_map, List.foldl_map]
  refine congrFun (congrFun (congrArg List.foldl (funext fun flags => funext fun entry => ?_)) _) _
  obtain ⟨name, source⟩ := entry
  cases source <;> rfl

theorem keySource_setPosition :
    (store.setPosition id position).keySource other = store.keySource other := by
  unfold keySource
  rw [getElem?_setPosition]
  cases store[other]? with
  | none => rfl
  | some source => cases source <;> simp [Source.moved, Source.kind]

theorem mouse_setPosition :
    (store.setPosition id position).mouse other =
      (store.mouse other).map (PointerSource.moved id position other) := by
  unfold mouse
  rw [getElem?_setPosition]
  cases store[other]? with
  | none => rfl
  | some source =>
    cases source with
    | pointer s =>
      by_cases mouse : s.kind = .mouse <;> simp [Source.moved, mouse, Except.map]
    | _ => rfl

end Store

/-! ### Presses and lifts -/

/-- A mouse event of a pointer after the pointer of some name was put somewhere. -/
def MouseEvent.moved (id : SourceId) (position : Point) (other : SourceId) (event : MouseEvent) :
    MouseEvent :=
  if other = id then { event with position := position } else event

namespace Inputs

/-- The inputs with a pointer put somewhere. -/
def place (inputs : Inputs) (id : SourceId) (position : Point) : Inputs :=
  { inputs with store := inputs.store.setPosition id position }

variable (inputs : Inputs) (id : SourceId) (position : Point)

theorem place_comm {id other : SourceId} (apart : id ≠ other) (position target : Point) :
    (inputs.place id position).place other target =
      (inputs.place other target).place id position := by
  rw [place, place, place, place, Store.setPosition_comm _ _ _ apart]

theorem place_place (target : Point) :
    (inputs.place id position).place id target = inputs.place id target := by
  rw [place, place, place, Store.setPosition_setPosition]

theorem place_self {s : PointerSource} (found : inputs.store[id]? = some (.pointer s)) :
    inputs.place id s.position = inputs := by
  rw [place, Store.setPosition_self _ _ found]

/-- Arriving somewhere is being put there. -/
theorem arrive_eq {s : PointerSource} (mouse : inputs.store.mouse id = .ok s) :
    inputs.arrive id position = .ok (inputs.place id position) := by
  unfold arrive place Store.setPosition
  rw [mouse, (Store.mouse_eq_ok mouse).1]
  rfl

theorem pressKey_place (action : Action) (value : String) :
    (inputs.place id position).pressKey action value =
      (inputs.pressKey action value).map
        fun (event, printable, next) => (event, printable, next.place id position) := by
  unfold pressKey place
  rw [Store.keySource_setPosition]
  cases inputs.store.keySource action.id with
  | error fault => rfl
  | ok s =>
    simp only [bind, Except.bind, pure, Except.pure, Except.map, Store.setPosition_insert]
    rfl

theorem liftKey_place (action : Action) (value : String) :
    (inputs.place id position).liftKey action value =
      (inputs.liftKey action value).map
        (Option.map fun (event, next) => (event, next.place id position)) := by
  unfold liftKey place
  rw [Store.keySource_setPosition]
  cases inputs.store.keySource action.id with
  | error fault => rfl
  | ok s =>
    simp only [bind, Except.bind, pure, Except.pure]
    split
    · simp only [Except.map, Option.map_some, Store.setPosition_insert]
      rfl
    · rfl

private theorem mouseEvent_moved (store : Store) (kind : MouseEventKind) (s : PointerSource)
    (other : SourceId) (button : UInt32) :
    mouseEvent (store.setPosition id position) kind (s.moved id position other) button =
      (mouseEvent store kind s button).moved id position other := by
  unfold mouseEvent PointerSource.moved MouseEvent.moved
  rw [Store.modifiers_setPosition]
  split <;> rfl

theorem pressButton_place (action : Action) (button : UInt32) :
    (inputs.place id position).pressButton action button =
      (inputs.pressButton action button).map
        (Option.map fun (event, next) =>
          (event.moved id position action.id, next.place id position)) := by
  unfold pressButton place
  rw [Store.mouse_setPosition]
  cases inputs.store.mouse action.id with
  | error error => rfl
  | ok s =>
    have moved := Store.setPosition_insert inputs.store id action.id position
      (.pointer (s.hold button))
    simp only [bind, Except.bind, pure, Except.pure, Except.map, PointerSource.isPressed_moved,
      PointerSource.hold_moved]
    -- Whether the button is down does not depend on the position, and no more do the flags.
    split
    · rfl
    · simp only [Option.map_some, ← mouseEvent_moved, moved]
      rfl

theorem liftButton_place (action : Action) (button : UInt32) :
    (inputs.place id position).liftButton action button =
      (inputs.liftButton action button).map
        (Option.map fun (event, next) =>
          (event.moved id position action.id, next.place id position)) := by
  unfold liftButton place
  rw [Store.mouse_setPosition]
  cases inputs.store.mouse action.id with
  | error error => rfl
  | ok s =>
    have moved := Store.setPosition_insert inputs.store id action.id position
      (.pointer (s.lift button))
    simp only [bind, Except.bind, pure, Except.pure, Except.map, PointerSource.isPressed_moved,
      PointerSource.lift_moved]
    split
    · simp only [Option.map_some, ← mouseEvent_moved, moved]
      rfl
    · rfl

end Inputs

end InputActions
