import InputActions.Numeric.Word
import InputActions.Text.Integer

/-!
# YAML values

A document is a tree of scalars, sequences and mappings. A scalar keeps its text and whether it was
quoted, because only the text of a plain scalar can stand for something else than a string: nothing
at all, a truth value or a number.

A mapping keeps its entries as they were written. `field` finds the value of a name and refuses a
mapping that gives the name twice.
-/

namespace InputActions

inductive Yaml where
  | scalar (quoted : Bool) (text : List Char)
  | sequence (items : List Yaml)
  | mapping (entries : List (Yaml × Yaml))
  deriving Inhabited

namespace Yaml

/-- The texts of plain scalars that mean that there is no value. -/
def isNullText (text : List Char) : Bool :=
  ["", "~", "null", "Null", "NULL"].contains (String.ofList text)

def boolOfText? (text : List Char) : Option Bool :=
  let word := String.ofList text
  if ["true", "True", "TRUE"].contains word then some true
  else if ["false", "False", "FALSE"].contains word then some false
  else none

def isSign (c : Char) : Bool := c == '+' || c == '-'

/-- Digits after a leading zero, which are no number. -/
def isPadded (text : List Char) : Bool :=
  match text with
  | '0' :: c :: rest => (c :: rest).all fun c => (Text.Integer.digit? c).isSome
  | _ => false

/-- A digit of a number system with letters after nine. -/
def digitOf? (base : Nat) (c : Char) : Option Nat :=
  let value :=
    if '0' ≤ c ∧ c ≤ '9' then c.toNat - '0'.toNat
    else if 'a' ≤ c ∧ c ≤ 'f' then c.toNat - 'a'.toNat + 10
    else if 'A' ≤ c ∧ c ≤ 'F' then c.toNat - 'A'.toNat + 10
    else base
  if value < base then some value else none

/-- The number of at least one digit. -/
def numeral? (base : Nat) (text : List Char) : Option Nat :=
  if text.isEmpty then none
  else text.foldlM (fun n c => (digitOf? base c).map fun d => base * n + d) 0

/-- The number of digits, with a letter for another number system than the decimal in front. -/
def magnitude? (text : List Char) : Option Nat :=
  match text with
  | '0' :: 'x' :: digits => numeral? 16 digits
  | '0' :: 'o' :: digits => numeral? 8 digits
  | '0' :: 'b' :: digits => numeral? 2 digits
  | digits => if isPadded digits then none else numeral? 10 digits

/-- The integer of a plain scalar. -/
def intOfText? (text : List Char) : Option Int :=
  match text with
  | '+' :: rest => (magnitude? rest).map Int.ofNat
  | '-' :: rest => (magnitude? rest).map fun n => -(n : Int)
  | rest => (magnitude? rest).map Int.ofNat

def natural? : Yaml → Option UInt64
  | .scalar false text =>
    match intOfText? text with
    | some n => if text.head? = some '-' then none else Word.unsigned? n
    | none => none
  | _ => none

def integer? : Yaml → Option Int64
  | .scalar false text => (intOfText? text).bind Word.signed?
  | _ => none

def bool? : Yaml → Option Bool
  | .scalar false text => boolOfText? text
  | _ => none

/-- The text of a scalar, whatever else it might stand for. -/
def string? : Yaml → Option String
  | .scalar _ text => some (String.ofList text)
  | _ => none

/-- The value that a mapping gives to a name, if it gives one; it may give only one. -/
def field (entries : List (Yaml × Yaml)) (name : String) : Option (Option Yaml) :=
  match entries.filter fun entry => entry.1.string? == some name with
  | [] => some none
  | [entry] => some (some entry.2)
  | _ => none

/-- The entries of a mapping, whose keys must be scalars; where nothing is written, there are
none. -/
def entries? : Yaml → Option (List (Yaml × Yaml))
  | .mapping entries => if entries.all (·.1.string?.isSome) then some entries else none
  | .scalar false [] => some []
  | _ => none

/-- A field that may be left out, and must be well-formed if it is there. -/
def default? {α : Type} (value : α) (read? : Yaml → Option α) : Option Yaml → Option α
  | none => some value
  | some field => read? field

end Yaml

end InputActions
