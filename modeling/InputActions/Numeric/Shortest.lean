import InputActions.Numeric.Binary64

/-!
# Shortest decimal text

A positive finite number is written with the fewest digits that read back as the same number.
On the grid of `n`-digit decimals at the size of `q`, a decimal that rounds to `q` exists only if
one of the two neighbours of `q` on the grid does, so it is enough to try the neighbours for one
digit, two digits and so on. Of two neighbours that both read back, the nearer one is taken.
Seventeen digits always suffice.

How the digits are laid out (where positional text ends, how an exponent is written) is left to
the format that uses them and stated in a `NumberForm`.
-/

namespace InputActions

/-- The decimal `digits * 10 ^ exponent`. -/
structure Decimal where
  digits : Nat
  exponent : Int
  deriving DecidableEq

namespace Decimal

/-- Ten to an integer power. -/
def pow10 (e : Int) : Rat :=
  if 0 ≤ e then ((Nat.pow 10 e.toNat : Nat) : Rat) else 1 / ((Nat.pow 10 (-e).toNat : Nat) : Rat)

def value (d : Decimal) : Rat := (d.digits : Rat) * pow10 d.exponent

/-- How many decimal digits a natural number has. -/
def digitCount (n : Nat) : Nat := (Nat.toDigits 10 n).length

/-- The exponent of the first digit of a positive number. -/
def leadingExponent (q : Rat) : Int :=
  if 1 ≤ q then (digitCount q.floor.toNat : Int) - 1
  else
    let inverse := 1 / q
    let count := digitCount inverse.floor.toNat
    if inverse = ((Nat.pow 10 (count - 1) : Nat) : Rat) then 1 - (count : Int) else -(count : Int)

/-- Removes up to `fuel` trailing zeros of the digits. -/
def dropZeros : Nat → Decimal → Decimal
  | 0, d => d
  | fuel + 1, d =>
    if d.digits ≠ 0 ∧ d.digits % 10 = 0 then dropZeros fuel ⟨d.digits / 10, d.exponent + 1⟩ else d

/-- The nearer neighbour of `q` among the decimals of `count` digits that reads back as `q`. -/
def withDigits? (q : Rat) (count : Nat) : Option Decimal :=
  let exponent := leadingExponent q - count + 1
  let below : Decimal := ⟨(q / pow10 exponent).floor.toNat, exponent⟩
  let above : Decimal := ⟨below.digits + 1, exponent⟩
  let reads (d : Decimal) : Bool := Binary64.round d.value = .finite q
  if reads below && reads above then
    if q - below.value < above.value - q then some below
    else if above.value - q < q - below.value then some above
    else if below.digits % 2 = 0 then some below
    else some above
  else if reads below then some below
  else if reads above then some above
  else none

/-- The shortest decimal that reads back as the positive finite number `q`. -/
def shortest (q : Rat) : Decimal :=
  let fallback : Decimal :=
    ⟨(q / pow10 (leadingExponent q - 16)).floor.toNat, leadingExponent q - 16⟩
  let found := (List.range 17).findSome? fun n => withDigits? q (n + 1)
  dropZeros 20 (found.getD fallback)

end Decimal

/-- How a format lays out digits. Numbers whose first digit has an exponent between the two bounds
are written positionally, the others with an exponent of at least `exponentDigits` digits. -/
structure NumberForm where
  leastPositional : Int
  greatestPositional : Int
  exponentDigits : Nat

namespace NumberForm

def zeros (n : Nat) : List Char := List.replicate n '0'

/-- A sign, and at least `width` digits. -/
def exponentText (width : Nat) (e : Int) : List Char :=
  let digits := Nat.toDigits 10 e.natAbs
  (if e < 0 then '-' else '+') :: (zeros (width - digits.length) ++ digits)

/-- The text of a positive decimal. Positional text has a digit on either side of the point. -/
def text (form : NumberForm) (d : Decimal) : List Char :=
  let digits := Nat.toDigits 10 d.digits
  let first : Int := d.exponent + digits.length - 1
  if form.leastPositional ≤ first ∧ first ≤ form.greatestPositional then
    if 0 ≤ d.exponent then digits ++ zeros d.exponent.toNat ++ ['.', '0']
    else if 0 ≤ first then
      digits.take (first.toNat + 1) ++ '.' :: digits.drop (first.toNat + 1)
    else '0' :: '.' :: (zeros (-first - 1).toNat ++ digits)
  else
    match digits with
    | [] => []
    | [only] => only :: 'e' :: exponentText form.exponentDigits first
    | lead :: rest => lead :: '.' :: (rest ++ 'e' :: exponentText form.exponentDigits first)

end NumberForm

end InputActions
