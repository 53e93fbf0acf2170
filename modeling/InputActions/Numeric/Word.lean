/-!
# Machine words

Signed and unsigned numbers of 64 bits. An integer is taken for such a number only if it is one:
there is none for an integer out of range, and no wrapping (`signed?_eq_some_iff`,
`signed?_eq_none_iff`).
-/

namespace InputActions.Word

/-- The greatest unsigned number. -/
def greatest : Nat := UInt64.size - 1

/-- The greatest signed number. -/
def greatestSigned : Nat := Int64.maxValue.toInt.natAbs

/-- The magnitude of the least signed number. -/
def leastSigned : Nat := Int64.minValue.toInt.natAbs

/-- The signed number that an integer is. -/
def signed? (n : Int) : Option Int64 :=
  if Int64.minValue.toInt ≤ n ∧ n ≤ Int64.maxValue.toInt then some (Int64.ofInt n) else none

/-- The unsigned number that an integer is. -/
def unsigned? (n : Int) : Option UInt64 :=
  if 0 ≤ n ∧ n.toNat ≤ greatest then some (UInt64.ofNat n.toNat) else none

theorem signed?_eq_some_iff {n : Int} {word : Int64} : signed? n = some word ↔ word.toInt = n := by
  simp only [signed?, Option.ite_none_right_eq_some, Option.some.injEq]
  constructor
  · rintro ⟨⟨low, high⟩, rfl⟩
    exact Int64.toInt_ofInt_of_le low (by rw [Int64.toInt_maxValue] at high; omega)
  · rintro rfl
    exact ⟨⟨Int64.minValue_le_toInt word, Int64.toInt_le word⟩, Int64.ofInt_toInt word⟩

theorem toInt_of_signed? {n : Int} {word : Int64} (h : signed? n = some word) :
    word.toInt = n :=
  signed?_eq_some_iff.mp h

theorem signed?_eq_none_iff (n : Int) :
    signed? n = none ↔ n < Int64.minValue.toInt ∨ Int64.maxValue.toInt < n := by
  simp only [signed?, ite_eq_right_iff, reduceCtorEq, imp_false]
  omega

end InputActions.Word
