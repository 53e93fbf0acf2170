import InputActions.Json.Basic
import InputActions.Numeric.Binary64
import InputActions.Text.Integer

/-!
# JSON tokens

Text is cut into brackets, commas, colons and scalars; blanks between them are dropped. A text
that is no sequence of tokens has none. Each token takes at least one character, which is why the
cutting ends.

Strings may hold no raw control character. An escape of a high surrogate must be followed by that
of a low one, and both stand for one character.

Numbers follow the strict grammar: no leading zero, no bare point, no bare exponent. The digits of
a floating point number are collected in 64 bits as long as they fit: a whole digit that no longer
fits counts only as a factor of ten, a digit after the point is dropped. The collected number is
then multiplied or divided by a power of ten, with a rounding in each step, and a number whose
magnitude would be infinite is refused.
-/

namespace InputActions.Json

inductive Token where
  | openArray
  | closeArray
  | openObject
  | closeObject
  | comma
  | colon
  | scalar (value : Json)
  deriving Inhabited

namespace Token

def isSpace (c : Char) : Bool := c == ' ' || c == '\t' || c == '\n' || c == '\r'

def hexDigit? (c : Char) : Option Nat :=
  if '0' ≤ c ∧ c ≤ '9' then some (c.toNat - '0'.toNat)
  else if 'a' ≤ c ∧ c ≤ 'f' then some (c.toNat - 'a'.toNat + 10)
  else if 'A' ≤ c ∧ c ≤ 'F' then some (c.toNat - 'A'.toNat + 10)
  else none

/-- The 16-bit unit of four hexadecimal digits. -/
def unit? (a b c d : Char) : Option Nat := do
  return 4096 * (← hexDigit? a) + 256 * (← hexDigit? b) + 16 * (← hexDigit? c) + (← hexDigit? d)

/-- The character of a one-letter escape. -/
def escape? : Char → Option Char
  | '"' => some '"'
  | '\\' => some '\\'
  | '/' => some '/'
  | 'b' => some '\x08'
  | 'f' => some '\x0c'
  | 'n' => some '\n'
  | 'r' => some '\r'
  | 't' => some '\t'
  | _ => none

def isHighSurrogate (u : Nat) : Bool := 0xD800 ≤ u && u ≤ 0xDBFF

def isLowSurrogate (u : Nat) : Bool := 0xDC00 ≤ u && u ≤ 0xDFFF

/-- The first character of a string's inside and the text after it. -/
def stringChar? : List Char → Option (Char × List Char)
  | '\\' :: 'u' :: a :: b :: c :: d :: text => do
    let u ← unit? a b c d
    if isHighSurrogate u then
      match text with
      | '\\' :: 'u' :: e :: f :: g :: h :: text =>
        let v ← unit? e f g h
        if isLowSurrogate v then
          some (Char.ofNat (0x10000 + (u - 0xD800) * 0x400 + (v - 0xDC00)), text)
        else none
      | _ => none
    else if isLowSurrogate u then none
    else some (Char.ofNat u, text)
  | '\\' :: c :: text => (escape? c).map (·, text)
  | c :: text => if c.toNat < 0x20 || c == '\\' then none else some (c, text)
  | [] => none

theorem stringChar?_length {text rest : List Char} {c : Char}
    (h : stringChar? text = some (c, rest)) : rest.length < text.length := by
  unfold stringChar? at h
  split at h
  · simp only [Option.bind_eq_bind, Option.bind_eq_some_iff] at h
    obtain ⟨u, -, h⟩ := h
    split at h
    · split at h
      · simp only [Option.bind_eq_some_iff] at h
        obtain ⟨v, -, h⟩ := h
        split at h
        · simp only [Option.some.injEq, Prod.mk.injEq] at h
          obtain ⟨-, rfl⟩ := h
          simp only [List.length_cons]; omega
        · contradiction
      · contradiction
    · split at h
      · contradiction
      · simp only [Option.some.injEq, Prod.mk.injEq] at h
        obtain ⟨-, rfl⟩ := h
        simp only [List.length_cons]; omega
  · simp only [Option.map_eq_some_iff, Prod.mk.injEq] at h
    obtain ⟨_, -, -, rfl⟩ := h
    simp only [List.length_cons]; omega
  · split at h
    · contradiction
    · simp only [Option.some.injEq, Prod.mk.injEq] at h
      obtain ⟨-, rfl⟩ := h
      simp
  · contradiction

/-- The inside of a string up to its closing quote, and the text after the quote. -/
def stringBody? (text : List Char) : Option (List Char × List Char) :=
  if text.head? = some '"' then some ([], text.tail)
  else
    match _h : stringChar? text with
    | none => none
    | some (c, rest) => (stringBody? rest).map fun body => (c :: body.1, body.2)
termination_by text.length
decreasing_by exact stringChar?_length _h

theorem stringBody?_length {text body rest : List Char}
    (h : stringBody? text = some (body, rest)) : rest.length < text.length := by
  fun_induction stringBody? text generalizing body rest with
  | case1 text hquote =>
    cases text with
    | nil => simp at hquote
    | cons c text =>
      simp only [List.tail_cons, Option.some.injEq, Prod.mk.injEq] at h
      obtain ⟨-, rfl⟩ := h
      simp
  | case2 => contradiction
  | case3 text _ c after hchar ih =>
    simp only [Option.map_eq_some_iff, Prod.mk.injEq, Prod.exists] at h
    obtain ⟨_, _, hbody, -, rfl⟩ := h
    exact Nat.lt_trans (ih hbody) (stringChar?_length hchar)

/-- Collects whole digits; once one no longer fits, that one and the later ones are counted. -/
def wholeDigits (value : Nat) (dropped : Nat) : List Nat → Nat × Nat
  | [] => (value, dropped)
  | d :: digits =>
    if dropped = 0 ∧ 10 * value + d ≤ Word.greatest then wholeDigits (10 * value + d) 0 digits
    else wholeDigits value (dropped + 1) digits

/-- Collects digits after the point as long as they fit, and counts those collected. -/
def pointDigits (value : Nat) (taken : Nat) : List Nat → Nat × Nat
  | [] => (value, taken)
  | d :: digits =>
    if 10 * value + d ≤ Word.greatest then pointDigits (10 * value + d) (taken + 1) digits
    else (value, taken)

/-- Divides by ten to the power `n`, in steps of `10 ^ 308`. -/
def scaleDown (x : Binary64) (n : Nat) : Binary64 :=
  if n ≤ 308 then x / Binary64.pow10 n
  else if x = Binary64.zero then x
  else scaleDown (x / Binary64.pow10 308) (n - 308)
termination_by n

/-- The magnitude `digits * 10 ^ exponent`, unless it is infinite. -/
def magnitude? (digits : Nat) (exponent : Int) : Option Rat :=
  let x := Binary64.ofNat digits
  let scaled :=
    if 0 ≤ exponent then
      if exponent ≤ 308 then x * Binary64.pow10 exponent.toNat
      else if digits = 0 then Binary64.zero else .nan
    else scaleDown x exponent.natAbs
  match scaled with
  | .finite q => some q
  | _ => none

/-- The decimal digits at the front of a text, and the rest. -/
def digits (text : List Char) : List Nat × List Char :=
  match text with
  | [] => ([], [])
  | c :: rest =>
    match Text.Integer.digit? c with
    | some d => (d :: (digits rest).1, (digits rest).2)
    | none => ([], c :: rest)

/-- The exponent at the front of a text: none if there is none, and nothing if it is malformed. -/
def exponent? (text : List Char) : Option (Option Int × List Char) :=
  match text with
  | c :: rest =>
    if c = 'e' ∨ c = 'E' then
      let (negative, rest) :=
        match rest with
        | '-' :: rest => (true, rest)
        | '+' :: rest => (false, rest)
        | rest => (false, rest)
      let (found, rest) := digits rest
      if found.isEmpty then none
      else
        let n : Nat := found.foldl (fun n d => 10 * n + d) 0
        some (some (if negative then -(n : Int) else n), rest)
    else some (none, text)
  | [] => some (none, [])

/-- The number that a text is, which must be used up. -/
def number? (text : List Char) : Option Json := do
  let (negative, text) :=
    match text with
    | '-' :: text => (true, text)
    | text => (false, text)
  let (whole, text) := digits text
  if whole.isEmpty || (whole.head? = some 0 && whole.length ≠ 1) then none
  let (value, dropped) := wholeDigits 0 0 whole
  match text with
  | [] =>
    if dropped = 0 ∧ ¬ negative then some (.int value)
    else if dropped = 0 ∧ 0 < value ∧ value ≤ Word.leastSigned then some (.int (-(value : Int)))
    else return .float negative (← magnitude? value dropped)
  | '.' :: text =>
    let (point, text) := digits text
    if point.isEmpty then none
    let (value, taken) := pointDigits value 0 point
    let (exponent, text) ← exponent? text
    if !text.isEmpty then none
    return .float negative (← magnitude? value (exponent.getD 0 + dropped - taken))
  | text =>
    let (exponent, text) ← exponent? text
    if !text.isEmpty then none
    return .float negative (← magnitude? value (exponent.getD 0 + dropped))

def isNumberChar (c : Char) : Bool :=
  (Text.Integer.digit? c).isSome || c == '-' || c == '+' || c == '.' || c == 'e' || c == 'E'

/-- The tokens of a text. -/
def list? (text : List Char) : Option (List Token) :=
  match text with
  | [] => some []
  | '[' :: rest => (list? rest).map (.openArray :: ·)
  | ']' :: rest => (list? rest).map (.closeArray :: ·)
  | '\x7b' :: rest => (list? rest).map (.openObject :: ·)
  | '\x7d' :: rest => (list? rest).map (.closeObject :: ·)
  | ',' :: rest => (list? rest).map (.comma :: ·)
  | ':' :: rest => (list? rest).map (.colon :: ·)
  | 'n' :: 'u' :: 'l' :: 'l' :: rest => (list? rest).map (.scalar .null :: ·)
  | 't' :: 'r' :: 'u' :: 'e' :: rest => (list? rest).map (.scalar (.bool true) :: ·)
  | 'f' :: 'a' :: 'l' :: 's' :: 'e' :: rest => (list? rest).map (.scalar (.bool false) :: ·)
  | '"' :: rest =>
    match h : stringBody? rest with
    | none => none
    | some (body, after) =>
      have _shorter := stringBody?_length h
      (list? after).map (.scalar (.str (String.ofList body)) :: ·)
  | c :: rest =>
    if isSpace c then list? rest
    else if isNumberChar c then do
      have _shorter := (List.dropWhile_sublist isNumberChar (l := rest)).length_le
      let value ← number? (c :: rest.takeWhile isNumberChar)
      return .scalar value :: (← list? (rest.dropWhile isNumberChar))
    else none
termination_by text.length

end Token

end InputActions.Json
