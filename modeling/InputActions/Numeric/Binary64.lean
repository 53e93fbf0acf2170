/-!
# Binary floating point of 64 bits

A finite number is held by its value, a rational; the other values are the two infinities and
not-a-number. Every operation is the exact operation followed by `round`, which takes the nearest
representable number and, between two equally near, the one whose last bit is zero. A magnitude
that rounds to `2 ^ 1024` or more is infinite.

Zero has no sign here. The sign of a zero shows only where a number is divided by it, and the
divisors are integers, whose zero is positive.

The representable numbers around `q` are the multiples of `2 ^ ulp q`. The exponent is chosen so
that 53 bits are left of the point, and it never falls below that of the smallest positive number.
-/

namespace InputActions

/-- A binary floating point number of 64 bits. -/
inductive Binary64 where
  | finite (value : Rat)
  | infinite (negative : Bool)
  | nan
  deriving DecidableEq

namespace Binary64

/-- Two to an integer power. -/
def pow2 (e : Int) : Rat :=
  if 0 ≤ e then ((Nat.pow 2 e.toNat : Nat) : Rat) else 1 / ((Nat.pow 2 (-e).toNat : Nat) : Rat)

/-- The greatest integer `e` with `2 ^ e ≤ q`, for positive `q`. -/
def log2 (q : Rat) : Int :=
  let guess : Int := (q.num.natAbs.log2 : Int) - (q.den.log2 : Int)
  if pow2 guess ≤ q then guess else guess - 1

/-- The exponent of the last place of the representable numbers around `q`. -/
def ulp (q : Rat) : Int := max (log2 q.abs - 52) (-1074)

/-- The nearest integer; a half goes to the even neighbour. -/
def nearestEven (q : Rat) : Int :=
  let below := q.floor
  let rest := q - below
  if rest < 1 / 2 then below
  else if 1 / 2 < rest then below + 1
  else if below % 2 = 0 then below else below + 1

/-- The nearest multiple of the last place of `q`. -/
def nearest (q : Rat) : Rat :=
  if q = 0 then 0 else (nearestEven (q / pow2 (ulp q)) : Rat) * pow2 (ulp q)

/-- The representable number nearest to `q`. -/
def round (q : Rat) : Binary64 :=
  let value := nearest q
  if pow2 1024 ≤ value then .infinite false
  else if value ≤ -pow2 1024 then .infinite true
  else .finite value

def zero : Binary64 := .finite 0

def one : Binary64 := .finite 1

def ofInt (n : Int) : Binary64 := round n

def ofNat (n : Nat) : Binary64 := round (n : Rat)

def neg : Binary64 → Binary64
  | .finite a => .finite (-a)
  | .infinite negative => .infinite (!negative)
  | .nan => .nan

def add : Binary64 → Binary64 → Binary64
  | .finite a, .finite b => round (a + b)
  | .infinite s, .infinite t => if s = t then .infinite s else .nan
  | .nan, _ => .nan
  | _, .nan => .nan
  | .infinite s, .finite _ => .infinite s
  | .finite _, .infinite t => .infinite t

def sub (a b : Binary64) : Binary64 := add a (neg b)

def mul : Binary64 → Binary64 → Binary64
  | .finite a, .finite b => round (a * b)
  | .infinite s, .infinite t => .infinite (s != t)
  | .nan, _ => .nan
  | _, .nan => .nan
  | .infinite s, .finite b => if b = 0 then .nan else .infinite (s != decide (b < 0))
  | .finite a, .infinite t => if a = 0 then .nan else .infinite (t != decide (a < 0))

def div : Binary64 → Binary64 → Binary64
  | .finite a, .finite b =>
    if b = 0 then if a = 0 then .nan else .infinite (decide (a < 0)) else round (a / b)
  | .infinite _, .infinite _ => .nan
  | .nan, _ => .nan
  | _, .nan => .nan
  | .infinite s, .finite b => .infinite (s != decide (b < 0))
  | .finite _, .infinite _ => zero

/-- The greatest integer that is not above the number. -/
def floor : Binary64 → Binary64
  | .finite a => .finite (a.floor : Rat)
  | x => x

/-- Strict order; nothing is less or greater than not-a-number. -/
def lt : Binary64 → Binary64 → Bool
  | .finite a, .finite b => decide (a < b)
  | .infinite s, .infinite t => s && !t
  | .nan, _ => false
  | _, .nan => false
  | .infinite s, .finite _ => s
  | .finite _, .infinite t => !t

/-- The integer part as a signed number of 64 bits: the ends of the range stand for what lies
beyond them, and zero for not-a-number. -/
def toInt64 : Binary64 → Int64
  | .finite a =>
    let n := if 0 ≤ a then a.floor else a.ceil
    if Int64.maxValue.toInt ≤ n then Int64.maxValue
    else if n ≤ Int64.minValue.toInt then Int64.minValue
    else Int64.ofInt n
  | .infinite negative => if negative then Int64.minValue else Int64.maxValue
  | .nan => 0

instance : Add Binary64 := ⟨add⟩
instance : Sub Binary64 := ⟨sub⟩
instance : Mul Binary64 := ⟨mul⟩
instance : Div Binary64 := ⟨div⟩
instance : Neg Binary64 := ⟨neg⟩

/-- Ten to a power, rounded. -/
def pow10 (n : Nat) : Binary64 := round ((Nat.pow 10 n : Nat) : Rat)

end Binary64

end InputActions
