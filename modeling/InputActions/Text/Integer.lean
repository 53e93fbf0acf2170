import InputActions.Numeric.Word

/-!
# Decimal integers in text

A number is written as an optional sign and at least one decimal digit. The target type has a
least and a greatest value, and the text is read from the left: the first character that is no
digit, or the first digit with which the value leaves the type, decides what is wrong. So a text
with two faults has the fault that comes first.

Reading accepts leading zeros and a plus sign; writing uses neither. What is written reads back
as the same value whenever the value belongs to the type.
-/

namespace InputActions.Text.Integer

/-- Why a text is no integer of the target type. -/
inductive Fault where
  | empty
  | invalidDigit
  | tooLarge
  | tooSmall
  deriving DecidableEq, Repr

def Fault.message : Fault → String
  | .empty => "cannot parse integer from empty string"
  | .invalidDigit => "invalid digit found in string"
  | .tooLarge => "number too large to fit in target type"
  | .tooSmall => "number too small to fit in target type"

/-- The value of a decimal digit. -/
def digit? (c : Char) : Option Nat :=
  if '0' ≤ c ∧ c ≤ '9' then some (c.toNat - '0'.toNat) else none

/-- Continues the number `value` with the digits of a text; it may not pass `bound`. -/
def readDigits (bound : Nat) (beyond : Fault) (value : Nat) : List Char → Except Fault Nat
  | [] => .ok value
  | c :: text =>
    match digit? c with
    | none => .error .invalidDigit
    | some d =>
      let next := 10 * value + d
      if next ≤ bound then readDigits bound beyond next text else .error beyond

/-- Digits of which there is at least one. -/
def readMagnitude (bound : Nat) (beyond : Fault) : List Char → Except Fault Nat
  | [] => .error .invalidDigit
  | text => readDigits bound beyond 0 text

/-- Reads a number between `0` and `greatest`; a minus sign is no part of it. -/
def readUnsigned (greatest : Nat) : List Char → Except Fault Nat
  | [] => .error .empty
  | '+' :: text => readMagnitude greatest .tooLarge text
  | text => readMagnitude greatest .tooLarge text

/-- Reads a number between `-least` and `greatest`. -/
def readSigned (least greatest : Nat) : List Char → Except Fault Int
  | [] => .error .empty
  | '+' :: text => (readMagnitude greatest .tooLarge text).map Int.ofNat
  | '-' :: text => (readMagnitude least .tooSmall text).map fun n => -(n : Int)
  | text => (readMagnitude greatest .tooLarge text).map Int.ofNat

/-- Reads a signed number of 64 bits. -/
def readInt64 (text : List Char) : Except Fault Int64 :=
  (readSigned Word.leastSigned Word.greatestSigned text).map Int64.ofInt

/-- Reads an unsigned number of 64 bits. -/
def readUInt64 (text : List Char) : Except Fault UInt64 :=
  (readUnsigned Word.greatest text).map UInt64.ofNat

/-- The digits of a number, without leading zeros. -/
def natChars (n : Nat) : List Char := Nat.toDigits 10 n

/-- A minus sign if the number is negative, and its digits. -/
def intChars : Int → List Char
  | .ofNat n => natChars n
  | .negSucc n => '-' :: natChars (n + 1)

def natText (n : Nat) : String := String.ofList (natChars n)

def intText (n : Int) : String := String.ofList (intChars n)

end InputActions.Text.Integer
