import InputActions.Event
import InputActions.Pending
import InputActions.Store

/-!
# The inputs of a session

A session shares one store and one list of pending releases among all its calls. The functions
here are the changes that an action makes at one instant: pressing and lifting a key or a button,
and taking back a lift that the surface refused. Each gives the event that reports the change, so
that an event and the state it describes cannot come apart.

A press owes its release from the moment it takes effect. A press of a button that is down, and a
lift of a key or button that is up, change nothing and report nothing.
-/

namespace InputActions

/-- What the calls on a session share. -/
structure Inputs where
  store : Store
  pending : Pending

namespace Inputs

/-- No source and nothing owed. -/
def fresh : Inputs := ⟨∅, .empty⟩

/-- What a key value types on a keyboard, given whether shift is held there. -/
def typed (source : KeySource) (value : String) : Key.Data :=
  Key.data (if source.modifiers.shift then Key.shifted value else value)

/-- A key press: its event, whether the key types a character, and the inputs afterwards. What is
typed depends on the flags before the press, and the event shows the flags after it. -/
def pressKey (inputs : Inputs) (action : Action) (value : String) :
    Except InvalidArgument (KeyEvent × Bool × Inputs) := do
  let source ← inputs.store.keySource action.id
  let key := Key.normalized value
  let data := typed source value
  let next := source.hold key
  let event := { KeyEvent.of .keydown data next.modifiers with held := source.isPressed key }
  return (event, data.printable,
    ⟨inputs.store.insert action.id (.key next), inputs.pending.record action⟩)

/-- Lifts a key, unless it is up. -/
def liftKey (inputs : Inputs) (action : Action) (value : String) :
    Except InvalidArgument (Option (KeyEvent × Inputs)) := do
  let source ← inputs.store.keySource action.id
  let key := Key.normalized value
  if source.isPressed key then
    let next := source.lift key
    return some (KeyEvent.of .keyup (typed source value) next.modifiers,
      { inputs with store := inputs.store.insert action.id (.key next) })
  else return none

/-- Takes back the lift of a key: the key is held again, and its flag is set. -/
def holdKey (inputs : Inputs) (id : SourceId) (key : String) : Except InvalidArgument Inputs :=
  match inputs.store[id]? with
  | some (.key source) =>
    .ok { inputs with store := inputs.store.insert id (.key (source.hold key)) }
  | some source => .error (.cannotPress id source.kind (.key key))
  | none => .error (.unknownSource id)

/-- A mouse event at the pointer's position, with the modifiers of all keyboards. -/
def mouseEvent (store : Store) (kind : MouseEventKind) (source : PointerSource) (button : UInt32) :
    MouseEvent :=
  ⟨kind, source.position, button, source.buttonMask, 0, store.modifiers⟩

/-- Presses a button, unless it is down. -/
def pressButton (inputs : Inputs) (action : Action) (button : UInt32) :
    Except ActionError (Option (MouseEvent × Inputs)) := do
  let source ← inputs.store.mouse action.id
  if source.isPressed button then return none
  else
    let next := source.hold button
    let store := inputs.store.insert action.id (.pointer next)
    return some (mouseEvent store .mousedown next button, ⟨store, inputs.pending.record action⟩)

/-- Lifts a button, unless it is up. -/
def liftButton (inputs : Inputs) (action : Action) (button : UInt32) :
    Except ActionError (Option (MouseEvent × Inputs)) := do
  let source ← inputs.store.mouse action.id
  if source.isPressed button then
    let next := source.lift button
    let store := inputs.store.insert action.id (.pointer next)
    return some (mouseEvent store .mouseup next button, { inputs with store := store })
  else return none

/-- Takes back the lift of a button. -/
def holdButton (inputs : Inputs) (id : SourceId) (button : UInt32) :
    Except InvalidArgument Inputs := do
  let (_, store) ← inputs.store.press id (.button button)
  return { inputs with store := store }

/-- The event of a pointer that arrives at a point, unless it is there already. -/
def moveEvent (inputs : Inputs) (id : SourceId) (target : Point) :
    Except ActionError (Option MouseEvent) := do
  let source ← inputs.store.mouse id
  if source.position = target then return none
  else return some { mouseEvent inputs.store .mousemove source 0 with position := target }

/-- Puts a mouse where the surface saw it arrive. -/
def arrive (inputs : Inputs) (id : SourceId) (target : Point) : Except ActionError Inputs := do
  let source ← inputs.store.mouse id
  let next := { source with position := target }
  return { inputs with store := inputs.store.insert id (.pointer next) }

end Inputs

end InputActions
