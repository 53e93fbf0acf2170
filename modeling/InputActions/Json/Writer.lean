import InputActions.Json.Basic
import InputActions.Numeric.Shortest
import InputActions.Text.Integer

/-!
# JSON text

Values are written without blanks and in the order they hold. Strings escape the quote, the
backslash and the control characters and nothing else; a floating point number has the fewest
digits that read back, with a point or an exponent, so it never looks like an integer.
-/

namespace InputActions.Json

/-- Floating point numbers are positional from `1e-5` up to below `1e16`; an exponent has a sign
and two digits or more. -/
def numberForm : NumberForm := ⟨-5, 15, 2⟩

def floatText (negative : Bool) (magnitude : Rat) : List Char :=
  (if negative then ['-'] else []) ++
    if magnitude = 0 then ['0', '.', '0'] else numberForm.text (Decimal.shortest magnitude)

/-- The four-digit escape of a control character. -/
def controlEscape (n : Nat) : List Char :=
  let digits := Nat.toDigits 16 n
  ['\\', 'u'] ++ List.replicate (4 - digits.length) '0' ++ digits

def escapedChar (c : Char) : List Char :=
  if c = '"' then ['\\', '"']
  else if c = '\\' then ['\\', '\\']
  else if c.toNat = 0x8 then ['\\', 'b']
  else if c.toNat = 0x9 then ['\\', 't']
  else if c.toNat = 0xA then ['\\', 'n']
  else if c.toNat = 0xC then ['\\', 'f']
  else if c.toNat = 0xD then ['\\', 'r']
  else if c.toNat < 0x20 then controlEscape c.toNat
  else [c]

def stringText (s : String) : List Char := '"' :: (s.toList.flatMap escapedChar ++ ['"'])

mutual

def chars : Json → List Char
  | .null => "null".toList
  | .bool b => if b then "true".toList else "false".toList
  | .int n => Text.Integer.intChars n
  | .float negative magnitude => floatText negative magnitude
  | .str s => stringText s
  | .arr items => '[' :: itemChars true items
  | .obj members => '\x7b' :: memberChars true members

/-- The items after the opening bracket, each but the first after a comma. -/
def itemChars (first : Bool) : List Json → List Char
  | [] => [']']
  | item :: items => (if first then [] else [',']) ++ chars item ++ itemChars false items

/-- The members after the opening brace, each but the first after a comma. -/
def memberChars (first : Bool) : List (String × Json) → List Char
  | [] => ['\x7d']
  | (name, value) :: members =>
    (if first then [] else [',']) ++ stringText name ++ ':' :: chars value ++
      memberChars false members

end

/-- The text of a value. -/
def text (value : Json) : String := String.ofList (chars value)

end InputActions.Json
