import InputActions.Failure
import Std.Data.ExtTreeMap

/-!
# The source store

The store maps the names of input sources to their states. A name keeps its kind for as long as it
is in the store: `ensure` adds only names that are missing, and no other operation adds any. Two
stores are equal when they give the same answer for every name.
-/

namespace InputActions

/-- The input sources of a session. -/
abbrev Store := Std.ExtTreeMap SourceId Source

namespace Store

/-- The kind under which a name is registered. -/
def kind? (store : Store) (id : SourceId) : Option SourceKind := store[id]?.map Source.kind

/-- Refuses a kind that differs from the one the name has. -/
def check (store : Store) (id : SourceId) (kind : SourceKind) : Except InvalidArgument Unit :=
  match store.kind? id with
  | none => .ok ()
  | some existing =>
    if existing = kind then .ok () else .error (.kindConflict id kind existing)

/-- Registers a name with a fresh source, unless it is registered with this kind already. -/
def ensure (store : Store) (id : SourceId) (kind : SourceKind) : Except InvalidArgument Store := do
  store.check id kind
  return if store.contains id then store else store.insert id (.fresh kind)

/-- Adds a key or button to those held, and says whether it was missing. -/
def press (store : Store) (id : SourceId) (trigger : Trigger) :
    Except InvalidArgument (Bool × Store) :=
  match store[id]?, trigger with
  | some (.key s), .key value =>
    let next : KeySource := { s with pressed := s.pressed.insert value }
    .ok (!s.isPressed value, store.insert id (.key next))
  | some (.pointer s), .button number =>
    .ok (!s.isPressed number, store.insert id (.pointer (s.hold number)))
  | some source, trigger => .error (.cannotPress id source.kind trigger)
  | none, _ => .error (.unknownSource id)

/-- Removes a key or button from those held, and says whether it was there. -/
def release (store : Store) (id : SourceId) (trigger : Trigger) :
    Except InvalidArgument (Bool × Store) :=
  match store[id]?, trigger with
  | some (.key s), .key value =>
    let next : KeySource := { s with pressed := s.pressed.erase value }
    .ok (s.isPressed value, store.insert id (.key next))
  | some (.pointer s), .button number =>
    .ok (s.isPressed number, store.insert id (.pointer (s.lift number)))
  | some source, trigger => .error (.cannotPress id source.kind trigger)
  | none, _ => .error (.unknownSource id)

/-- Whether a key or button is held; nothing is known of a source of another kind. -/
def held? (store : Store) (id : SourceId) (trigger : Trigger) : Option Bool :=
  match store[id]?, trigger with
  | some (.key s), .key value => some (s.isPressed value)
  | some (.pointer s), .button number => some (s.isPressed number)
  | _, _ => none

/-- Sets a flag of a key source; other names are left alone. -/
def setModifier (store : Store) (id : SourceId) (modifier : Modifier) (value : Bool) : Store :=
  match store[id]? with
  | some (.key s) => store.insert id (.key { s with modifiers := s.modifiers.set modifier value })
  | _ => store

/-- Puts a pointer somewhere; other names are left alone. -/
def setPosition (store : Store) (id : SourceId) (position : Point) : Store :=
  match store[id]? with
  | some (.pointer s) => store.insert id (.pointer { s with position := position })
  | _ => store

/-- The flags that are set in some key source. -/
def modifiers (store : Store) : Modifiers :=
  store.toList.foldl
    (fun flags entry =>
      match entry.2.key? with
      | some s => flags.union s.modifiers
      | none => flags)
    .none

/-- The key source of a name. -/
def keySource (store : Store) (id : SourceId) : Except InvalidArgument KeySource :=
  match store[id]? with
  | some (.key s) => .ok s
  | some source => .error (.notKeySource id source.kind)
  | none => .error (.unknownSource id)

/-- The pointer source of a name, provided it is a mouse. -/
def mouse (store : Store) (id : SourceId) : Except ActionError PointerSource :=
  match store[id]? with
  | some (.pointer s) =>
    if s.kind = .mouse then .ok s else .error (.unsupported .pointerKind)
  | some source => .error (.invalidArgument (.notPointerSource id source.kind))
  | none => .error (.invalidArgument (.unknownSource id))

end Store

end InputActions
