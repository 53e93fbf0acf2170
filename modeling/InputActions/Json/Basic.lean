import InputActions.Numeric.Word

/-!
# JSON values

A number is an integer or a floating point number, decided by how it is written: integers without
fraction and exponent that fit 64 bits are integers, everything else is floating point. A floating
point number is a sign and a magnitude, so that minus zero is kept.

An object keeps its members as they were written, in order and with repetitions. `lookup` takes the
last member of a name, and `canonical` keeps only those, in the order of their names.
-/

namespace InputActions

inductive Json where
  | null
  | bool (value : Bool)
  | int (value : Int)
  | float (negative : Bool) (magnitude : Rat)
  | str (value : String)
  | arr (items : List Json)
  | obj (members : List (String × Json))
  deriving Inhabited

namespace Json

/-- The value of the last member with this name. -/
def lookup (members : List (String × Json)) (name : String) : Option Json :=
  members.foldl (fun found member => if member.1 = name then some member.2 else found) none

/-- Puts a member into its place among members ordered by name, instead of one of its name. -/
def insertMember (name : String) (value : Json) : List (String × Json) → List (String × Json)
  | [] => [(name, value)]
  | (other, found) :: members =>
    if name = other then (name, value) :: members
    else if name < other then (name, value) :: (other, found) :: members
    else (other, found) :: insertMember name value members

mutual

/-- The same value with the members of every object in the order of their names, each once. -/
def canonical : Json → Json
  | .arr items => .arr (canonicalItems items)
  | .obj members => .obj (canonicalMembers [] members)
  | value => value

def canonicalItems : List Json → List Json
  | [] => []
  | item :: items => canonical item :: canonicalItems items

def canonicalMembers (done : List (String × Json)) : List (String × Json) → List (String × Json)
  | [] => done
  | (name, value) :: members =>
    canonicalMembers (insertMember name (canonical value) done) members

end

def isNull : Json → Bool
  | .null => true
  | _ => false

/-- The number of an integer that fits an unsigned 64-bit number. -/
def natural? : Json → Option UInt64
  | .int n => Word.unsigned? n
  | _ => none

/-- The number of an integer that fits a signed 64-bit number. -/
def integer? : Json → Option Int64
  | .int n => Word.signed? n
  | _ => none

def string? : Json → Option String
  | .str s => some s
  | _ => none

def bool? : Json → Option Bool
  | .bool b => some b
  | _ => none

end Json

end InputActions
