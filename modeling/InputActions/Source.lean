import InputActions.Geometry
import InputActions.Modifiers
import Std.Data.ExtTreeSet

/-!
# Input sources

An input source is a virtual device: one that only waits, a keyboard, or a pointer of some kind.
`SourceType` is what an action sequence declares, `SourceKind` what a source is once its pointer
kind is known, and `Source` the state it is in. A key source holds normalized key values and its
modifier flags; a pointer source holds button numbers and a position.

A source begins with nothing pressed (`Source.fresh`) and its state says its kind
(`Source.kind_fresh`).
-/

namespace InputActions

/-- The name a caller gives to an input source. -/
structure SourceId where
  text : String
  deriving DecidableEq, Repr

/-- The name under which the surface knows an element. -/
structure ElementRef where
  text : String
  deriving DecidableEq, Repr

instance : Ord SourceId := ⟨fun a b => compare a.text b.text⟩

instance : Std.TransOrd SourceId where
  eq_swap {a b} := @Std.OrientedCmp.eq_swap String compare _ a.text b.text
  isLE_trans {a b c} := @Std.TransCmp.isLE_trans String compare _ a.text b.text c.text

instance : Std.LawfulEqOrd SourceId where
  compare_self {a} := @Std.ReflCmp.compare_self String compare _ a.text
  eq_of_compare {a b} h := by
    have same : a.text = b.text := @Std.LawfulEqCmp.eq_of_compare String compare _ a.text b.text h
    cases a
    cases b
    exact congrArg _ same

def ElementRef.shown (e : ElementRef) : String := "element " ++ e.text

inductive PointerKind where
  | mouse
  | pen
  | touch
  deriving DecidableEq, Repr

namespace PointerKind

def name : PointerKind → String
  | .mouse => "mouse"
  | .pen => "pen"
  | .touch => "touch"

def ofName? : String → Option PointerKind
  | "mouse" => some .mouse
  | "pen" => some .pen
  | "touch" => some .touch
  | _ => none

theorem ofName?_name (kind : PointerKind) : ofName? kind.name = some kind := by
  cases kind <;> rfl

end PointerKind

/-- The type an action sequence declares. -/
inductive SourceType where
  | none
  | key
  | pointer
  deriving DecidableEq, Repr

namespace SourceType

def name : SourceType → String
  | .none => "none"
  | .key => "key"
  | .pointer => "pointer"

def ofName? : String → Option SourceType
  | "none" => some .none
  | "key" => some .key
  | "pointer" => some .pointer
  | _ => Option.none

theorem ofName?_name (type : SourceType) : ofName? type.name = some type := by
  cases type <;> rfl

end SourceType

/-- What a source is, with the kind of a pointer. -/
inductive SourceKind where
  | none
  | key
  | pointer (kind : PointerKind)
  deriving DecidableEq, Repr

def SourceKind.text : SourceKind → String
  | .none => "none"
  | .key => "key"
  | .pointer kind => "pointer (" ++ kind.name ++ ")"

/-- What is pressed or released: a key by its normalized value, or a button by its number. -/
inductive Trigger where
  | key (value : String)
  | button (number : UInt32)
  deriving DecidableEq, Repr

/-- A keyboard: the normalized values held down, and the flags of its modifier keys. -/
structure KeySource where
  pressed : Std.ExtTreeSet String
  modifiers : Modifiers

namespace KeySource

def fresh : KeySource := ⟨∅, .none⟩

def isPressed (s : KeySource) (key : String) : Bool := s.pressed.contains key

/-- The flags after the modifier of a key, if it has one, was set to a value. -/
def flags (s : KeySource) (key : String) (value : Bool) : Modifiers :=
  match Modifier.ofKey? key with
  | some modifier => s.modifiers.set modifier value
  | none => s.modifiers

/-- The keyboard with one more key held down, and the flag of that key set. -/
def hold (s : KeySource) (key : String) : KeySource := ⟨s.pressed.insert key, s.flags key true⟩

/-- The keyboard with a key lifted, and the flag of that key cleared. -/
def lift (s : KeySource) (key : String) : KeySource := ⟨s.pressed.erase key, s.flags key false⟩

end KeySource

/-- A pointing device: the buttons held down, and where it points. -/
structure PointerSource where
  kind : PointerKind
  pressed : Std.ExtTreeSet UInt32
  position : Point

namespace PointerSource

def fresh (kind : PointerKind) : PointerSource := ⟨kind, ∅, .origin⟩

def isPressed (s : PointerSource) (button : UInt32) : Bool := s.pressed.contains button

def hold (s : PointerSource) (button : UInt32) : PointerSource :=
  { s with pressed := s.pressed.insert button }

def lift (s : PointerSource) (button : UInt32) : PointerSource :=
  { s with pressed := s.pressed.erase button }

/-- One bit for each held button below 32; the others have no bit. -/
def buttonMask (s : PointerSource) : Nat :=
  (s.pressed.toList.filter (· < 32)).foldl (fun mask button => mask ||| Nat.pow 2 button.toNat) 0

end PointerSource

/-- The state of an input source. -/
inductive Source where
  | idle
  | key (state : KeySource)
  | pointer (state : PointerSource)

namespace Source

/-- A source of the given kind with nothing pressed. -/
def fresh : SourceKind → Source
  | .none => .idle
  | .key => .key .fresh
  | .pointer kind => .pointer (.fresh kind)

def kind : Source → SourceKind
  | .idle => .none
  | .key _ => .key
  | .pointer state => .pointer state.kind

@[simp] theorem kind_fresh (kind : SourceKind) : (fresh kind).kind = kind := by
  cases kind <;> rfl

def key? : Source → Option KeySource
  | .key state => some state
  | _ => none

def pointer? : Source → Option PointerSource
  | .pointer state => some state
  | _ => none

end Source

end InputActions
