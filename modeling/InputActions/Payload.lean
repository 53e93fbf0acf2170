import InputActions.Chain
import InputActions.Json.Writer
import InputActions.Store
import InputActions.Text.Grapheme

/-!
# Reading action payloads

A payload is the array of action sequences, or an object that has it under `actions`. Reading is
strict: the first thing that is wrong, in the order in which the fields are read below, is the
error. A field that is `null` counts as missing where the text says so, and not elsewhere.

Reading changes no source. The names that a payload uses are checked against the store and against
the kinds that earlier sequences of the same payload gave them; the latter are `Staged` until the
whole payload has been read. A payload that has been read says which names it adds, in the order of
their first appearance, and registering them is a separate step (`Validated.commit`).
-/

namespace InputActions

namespace Payload

/-- How much of a value a message shows. -/
def shownLength : Nat := 64

/-- A value as messages show it: its text with the members of objects in order, cut if it is too
long, or a word for a value that is missing. -/
def shown : Option Json → String
  | none => "undefined"
  | some value =>
    let chars := value.canonical.chars
    if shownLength < chars.length then String.ofList (chars.take shownLength ++ ['.', '.', '.'])
    else String.ofList chars

/-- The member of an object under which the surface's name of an element stands. -/
def elementKey : String := "element-6066-11e4-a52e-4f735466cecf"

abbrev Members := List (String × Json)

/-- A member, unless it is missing or `null`. -/
def optional (members : Members) (name : String) : Option Json :=
  (Json.lookup members name).filter fun value => !value.isNull

abbrev Read (α : Type) := Except ActionError α

def fail {α : Type} (fault : InvalidArgument) : Read α := .error (.invalidArgument fault)

/-- The members of an object. -/
def members (value : Json) (fault : String → InvalidArgument) : Read Members :=
  match value with
  | .obj members => .ok members
  | value => fail (fault (shown (some value)))

/-- A member that must be a string. -/
def string (members : Members) (name : String) (fault : String → InvalidArgument) :
    Read String :=
  match Json.lookup members name with
  | some (.str s) => .ok s
  | other => fail (fault (shown other))

/-- A member that must be an array. -/
def array (members : Members) (name : String) (fault : String → InvalidArgument) :
    Read (List Json) :=
  match Json.lookup members name with
  | some (.arr items) => .ok items
  | other => fail (fault (shown other))

/-- The pointer kind that a member gives, if it is there. -/
def pointerKind? (members : Members) (field : String) : Read (Option PointerKind) :=
  match optional members "pointerType" with
  | none => .ok none
  | some (.str name) =>
    match PointerKind.ofName? name with
    | some kind => .ok (some kind)
    | none => fail (.unknownPointerKind name)
  | some other => fail (.pointerKindNotString field (shown (some other)))

/-- The pointer kind of a sequence, given at its top, in its parameters, or not at all. -/
def pointerKind (sequence : Members) : Read PointerKind := do
  let own ← pointerKind? sequence "pointerType"
  let parameter ←
    match optional sequence "parameters" with
    | none => .ok none
    | some (.obj parameters) => pointerKind? parameters "parameters.pointerType"
    | some other => fail (.parametersNotObject (shown (some other)))
  match own, parameter with
  | some a, some b => if a = b then .ok a else fail (.conflictingPointerKinds a b)
  | some a, none => .ok a
  | none, some b => .ok b
  | none, none => .ok .mouse

/-- A duration, if there is one. -/
def duration? (item : Members) : Read (Option UInt64) :=
  match optional item "duration" with
  | none => .ok none
  | some value =>
    match value.natural? with
    | some n => .ok (some n)
    | none => fail (.notNatural "duration" (shown (some value)))

/-- A coordinate; a missing one is zero. -/
def coordinate (item : Members) (name : String) : Read Int64 :=
  match optional item name with
  | none => .ok 0
  | some value =>
    match value.integer? with
    | some n => .ok n
    | none => fail (.notInteger name (shown (some value)))

/-- A key value, which is one grapheme cluster. -/
def keyValue (item : Members) : Read String :=
  match Json.lookup item "value" with
  | some (.str value) =>
    if Text.isCluster value then .ok value
    else fail (.valueNotCharacter (shown (some (.str value))))
  | other => fail (.valueNotCharacter (shown other))

/-- A button number of 32 bits. -/
def button (item : Members) : Read UInt32 :=
  match (Json.lookup item "button").bind Json.natural? with
  | some n =>
    if n.toNat < UInt32.size then .ok (UInt32.ofNat n.toNat)
    else fail (.notNatural "button" (shown (Json.lookup item "button")))
  | none => fail (.notNatural "button" (shown (Json.lookup item "button")))

/-- What a move is measured from; without a word, from the viewport. -/
def origin (item : Members) : Read Origin :=
  match optional item "origin" with
  | none => .ok .viewport
  | some (.str name) =>
    if name = "viewport" then .ok .viewport
    else if name = "pointer" then .ok .pointer
    else fail (.unknownOrigin name)
  | some (.obj reference) =>
    match Json.lookup reference elementKey with
    | some (.str element) => .ok (.element ⟨element⟩)
    | _ => fail (.malformedOrigin (shown (some (.obj reference))))
  | some other => fail (.malformedOrigin (shown (some other)))

/-- What an item of a sequence says, once its subtype is known. -/
def gesture (subtype : Subtype) (item : Members) : Read Gesture :=
  match subtype with
  | .pause => return .pause (← duration? item)
  | .keyDown => return .keyDown (← keyValue item)
  | .keyUp => return .keyUp (← keyValue item)
  | .pointerDown => return .pointerDown (← button item)
  | .pointerUp => return .pointerUp (← button item)
  | .pointerMove => do
    let duration ← duration? item
    let origin ← origin item
    let dx ← coordinate item "x"
    let dy ← coordinate item "y"
    return .pointerMove duration origin dx dy
  | .pointerCancel => .error (.unsupported .pointerCancel)

/-- The subtype of an item, which must be one of those its source may have. -/
def subtype (type : SourceType) (item : Members) : Read Subtype := do
  let name ← string item "type" .itemTypeNotString
  match (Subtype.ofName? name).filter (·.allowedFor type) with
  | some subtype => .ok subtype
  | none => fail (.unknownSubtype type name)

/-- One item of a sequence. -/
def item (type : SourceType) (value : Json) : Read Gesture := do
  let fields ← members value .itemNotObject
  gesture (← subtype type fields) fields

/-- The items of a sequence, in order. -/
def items (type : SourceType) : List Json → Read (List Gesture)
  | [] => .ok []
  | value :: values => do
    let first ← item type value
    let rest ← items type values
    return first :: rest

/-- What a sequence says about its source, and its items unread. -/
structure Header where
  id : SourceId
  type : SourceType
  kind : SourceKind
  items : List Json

def sourceType (sequence : Members) : Read SourceType := do
  let name ← string sequence "type" .typeNotString
  match SourceType.ofName? name with
  | some type => .ok type
  | none => fail (.unknownType name)

/-- The kind of a sequence's source. Only pointers have a pointer kind, so only theirs is read. -/
def sourceKind (type : SourceType) (sequence : Members) : Read SourceKind :=
  match type with
  | .none => .ok .none
  | .key => .ok .key
  | .pointer => return .pointer (← pointerKind sequence)

def header (value : Json) : Read Header := do
  let sequence ← members value .sequenceNotObject
  let type ← sourceType sequence
  let kind ← sourceKind type sequence
  let id ← string sequence "id" .idNotString
  let items ← array sequence "actions" .itemsNotArray
  return ⟨⟨id⟩, type, kind, items⟩

/-- The kinds that sequences of a payload gave to names, until the payload is read to its end. -/
abbrev Staged := Std.ExtTreeMap SourceId SourceKind

/-- Checks the kind of a name against the store and the staged kinds, and stages it. -/
def stage (store : Store) (staged : Staged) (id : SourceId) (kind : SourceKind) : Read Staged :=
  match store.check id kind with
  | .error fault => fail fault
  | .ok () =>
    match staged[id]? with
    | some existing => if existing = kind then .ok staged else fail (.kindConflict id kind existing)
    | none => .ok (staged.insert id kind)

/-- The pointer kind of a source that is a pointer. -/
def kindOfPointer? : SourceKind → Option PointerKind
  | .pointer kind => some kind
  | _ => none

/-- The sequence of a header whose items have been read. -/
def Header.sequence (header : Header) (gestures : List Gesture) : Sequence :=
  ⟨header.id, header.kind,
    gestures.map fun gesture => ⟨header.id, header.type, kindOfPointer? header.kind, gesture⟩⟩

/-- Reads one sequence. Its name stays staged even if one of its items is wrong. -/
def sequence (store : Store) (staged : Staged) (value : Json) : Read Sequence × Staged :=
  match header value with
  | .error error => (.error error, staged)
  | .ok header =>
    match stage store staged header.id header.kind with
    | .error error => (.error error, staged)
    | .ok staged => ((items header.type header.items).map header.sequence, staged)

/-- Reads sequences one after the other, up to the first that is wrong. -/
def sequences (store : Store) (staged : Staged) : List Json → Read (List Sequence)
  | [] => .ok []
  | value :: values =>
    match sequence store staged value with
    | (.error error, _) => .error error
    | (.ok first, staged) => do
      let rest ← sequences store staged values
      return first :: rest

/-- The array of sequences that a payload is or has. -/
def sequenceArray : Json → Read (List Json)
  | .arr values => .ok values
  | .obj body => array body "actions" .actionsNotArray
  | other => fail (.actionsNotArray (shown (some other)))

/-- The names that sequences add to a store, each once, in the order of their first appearance. -/
def newSources (store : Store) (sequences : List Sequence) : List (SourceId × SourceKind) :=
  sequences.foldl
    (fun added sequence =>
      if store.contains sequence.id || added.any (·.1 == sequence.id) then added
      else added ++ [(sequence.id, sequence.kind)])
    []

end Payload

/-- A payload that has been read: its chain, and the sources it adds. -/
structure Validated where
  chain : Chain
  newSources : List (SourceId × SourceKind)

namespace Payload

/-- Reads a payload for a session with this store. -/
def validate (store : Store) (payload : Json) : Read Validated := do
  let values ← sequenceArray payload
  let read ← sequences store ∅ values
  return ⟨Chain.ofSequences read, newSources store read⟩

end Payload

/-- Registers sources one after the other; those before the first conflict stay registered. -/
def Store.ensureAll (store : Store) :
    List (SourceId × SourceKind) → Except InvalidArgument Unit × Store
  | [] => (.ok (), store)
  | (id, kind) :: sources =>
    match store.ensure id kind with
    | .error fault => (.error fault, store)
    | .ok store => store.ensureAll sources

/-- Registers the sources that a payload adds. -/
def Validated.commit (validated : Validated) (store : Store) :
    Except InvalidArgument Unit × Store :=
  store.ensureAll validated.newSources

end InputActions
