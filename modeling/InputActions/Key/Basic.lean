import InputActions.Key.Layout

/-!
# Key values

A key value is the text by which an action names a key: a private-use character for a key without
a character, or the character itself. Three things follow from a value. Its *normalized* value is
the name under which a key source holds the key, so that the left and the right shift key are one.
Its *data* are what an event says about the key. Its *shifted* value is what the same physical key
types while shift is held.

Only one-character values are looked up. Every other value stands for itself, has no physical key,
and is printable unless it is empty.
-/

namespace InputActions

/-- A key that modifies the others while it is held. -/
inductive Modifier where
  | alt
  | shift
  | ctrl
  | metaKey
  deriving DecidableEq, Repr

namespace Key

/-- What an event says about a key. -/
structure Data where
  key : String
  code : String
  location : Location
  printable : Bool
  deriving DecidableEq, Repr

/-- The only character of a one-character value. -/
def single? (value : String) : Option Char :=
  match value.toList with
  | [c] => some c
  | _ => none

def special? (value : String) : Option Special :=
  (single? value).bind fun c => specialKeys.find? (·.character == c)

/-- The name under which a key is held. -/
def normalized (value : String) : String :=
  match special? value with
  | some key => key.name
  | none => value

/-- The physical key that types a character, if it is one of the layout. -/
def code (c : Char) : String :=
  if c.isAlpha then String.ofList ['K', 'e', 'y', c.toUpper]
  else if c = ' ' then "Space"
  else
    match printableKeys.find? fun key => key.plain == c || key.shifted == c with
    | some key => key.code
    | none => ""

def data (value : String) : Data :=
  match special? value with
  | some key => ⟨key.name, key.code, key.location, key.name.length == 1⟩
  | none => ⟨value, ((single? value).map code).getD "", .standard, value != ""⟩

/-- What the key types while shift is held. -/
def shifted (value : String) : String :=
  match single? value with
  | none => value
  | some c =>
    if c.isLower then String.singleton c.toUpper
    else
      match printableKeys.find? (·.plain == c) with
      | some key => String.singleton key.shifted
      | none => value

end Key

/-- The modifier that the key of this normalized value is. -/
def Modifier.ofKey? : String → Option Modifier
  | "Alt" => some .alt
  | "Shift" => some .shift
  | "Control" => some .ctrl
  | "Meta" => some .metaKey
  | _ => none

end InputActions
