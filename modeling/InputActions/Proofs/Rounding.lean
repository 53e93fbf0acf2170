import InputActions.Numeric.Binary64
import Mathlib.Algebra.Order.Field.Power
import Mathlib.Data.Int.Log
import Mathlib.Data.Rat.Floor
import Mathlib.Tactic.GCongr
import Mathlib.Tactic.Linarith
import Mathlib.Tactic.NormNum
import Mathlib.Tactic.Positivity
import Mathlib.Tactic.Ring

/-!
# Rounding

Rounding to a floating point number keeps order (`Binary64.nearest_mono`), although the distance of
the representable numbers changes at the powers of two: whatever lies on the grid of a number or on
a coarser one is not crossed by rounding that number, and a power of two between two numbers lies
on both their grids. Integers of at most 53 bits are representable (`Binary64.nearest_intCast`),
and other numbers are missed by at most half of their last place (`Binary64.nearest_error`).
-/
namespace InputActions.Binary64

/-! ### The exponent -/

theorem pow2_eq (e : Int) : pow2 e = (2 : Rat) ^ e := by
  unfold pow2
  split
  next nonneg =>
    obtain ⟨n, rfl⟩ := Int.eq_ofNat_of_zero_le nonneg
    simp
  next negative =>
    obtain ⟨n, rfl⟩ := Int.exists_eq_neg_ofNat (le_of_not_ge negative)
    simp

theorem abs_eq (q : Rat) : q.abs = |q| := by
  unfold Rat.abs
  split
  next nonneg => rw [abs_of_nonneg nonneg]
  next negative => rw [abs_of_neg (lt_of_not_ge negative)]

/-- The sizes of two numbers tell the size of their quotient up to a factor of two either way. -/
private theorem quotient_bounds {n d : Nat} (hn : n ≠ 0) (hd : d ≠ 0) :
    (2 : Rat) ^ ((n.log2 : Int) - d.log2 - 1) ≤ n / d ∧
      (n / d : Rat) < 2 ^ ((n.log2 : Int) - d.log2 + 1) := by
  have numLow : (2 : Rat) ^ n.log2 ≤ n := by exact_mod_cast Nat.log2_self_le hn
  have numHigh : (n : Rat) < 2 ^ (n.log2 + 1) := by exact_mod_cast Nat.lt_log2_self
  have denLow : (2 : Rat) ^ d.log2 ≤ d := by exact_mod_cast Nat.log2_self_le hd
  have denHigh : (d : Rat) < 2 ^ (d.log2 + 1) := by exact_mod_cast Nat.lt_log2_self
  have positive : (0 : Rat) < d := by exact_mod_cast Nat.pos_of_ne_zero hd
  constructor
  · have split : (2 : Rat) ^ ((n.log2 : Int) - d.log2 - 1) = 2 ^ n.log2 / 2 ^ (d.log2 + 1) := by
      rw [sub_sub, zpow_sub₀ two_ne_zero, zpow_natCast]
      exact_mod_cast rfl
    rw [split]
    gcongr
  · have split : (2 : Rat) ^ ((n.log2 : Int) - d.log2 + 1) = 2 ^ (n.log2 + 1) / 2 ^ d.log2 := by
      rw [sub_add_eq_add_sub, zpow_sub₀ two_ne_zero, zpow_natCast]
      exact_mod_cast rfl
    rw [split]
    gcongr

theorem log2_eq {q : Rat} (positive : 0 < q) : log2 q = Int.log 2 q := by
  have numerator : q.num.natAbs ≠ 0 := Int.natAbs_ne_zero.mpr (Rat.num_pos.mpr positive).ne'
  have value : (q.num.natAbs : Rat) / q.den = q := by
    rw [← Int.cast_natCast, Int.natAbs_of_nonneg (Rat.num_nonneg.mpr positive.le), Rat.num_div_den]
  obtain ⟨low, high⟩ := quotient_bounds numerator q.den_nz
  rw [value] at low high
  have above := (Int.zpow_le_iff_le_log one_lt_two positive).mp low
  have below := (Int.lt_zpow_iff_log_lt one_lt_two positive).mp high
  -- The guess is the exponent or one more, and the comparison tells which.
  unfold log2
  dsimp only
  rw [pow2_eq]
  split
  next fits =>
    have least := (Int.zpow_le_iff_le_log one_lt_two positive).mp fits
    omega
  next misses =>
    have greatest := (Int.lt_zpow_iff_log_lt one_lt_two positive).mp (lt_of_not_ge misses)
    omega

/-- What is less than a power of two has its last place 53 bits below it, or is very small. -/
theorem ulp_le {q : Rat} {e : Int} (small : |q| < 2 ^ e) (nonzero : q ≠ 0) :
    ulp q ≤ max (e - 53) (-1074) := by
  have positive : 0 < |q| := abs_pos.mpr nonzero
  have less := (Int.lt_zpow_iff_log_lt one_lt_two positive).mp small
  rw [ulp, abs_eq, log2_eq positive]
  omega

/-! ### The nearest integer -/

theorem floor_le_nearestEven (q : Rat) : q.floor ≤ nearestEven q := by
  unfold nearestEven
  dsimp only
  split_ifs <;> omega

theorem nearestEven_le_floor (q : Rat) : nearestEven q ≤ q.floor + 1 := by
  unfold nearestEven
  dsimp only
  split_ifs <;> omega

theorem nearestEven_intCast (n : Int) : nearestEven n = n := by
  unfold nearestEven
  norm_num [Rat.floor_intCast]

theorem nearestEven_mono {q r : Rat} (le : q ≤ r) : nearestEven q ≤ nearestEven r := by
  rcases (Rat.floor_monotone le).lt_or_eq with apart | same
  · calc
      nearestEven q ≤ q.floor + 1 := nearestEven_le_floor q
      _ ≤ r.floor := apart
      _ ≤ nearestEven r := floor_le_nearestEven r
  -- Between the same two integers the greater number goes up if the lesser does.
  · unfold nearestEven
    dsimp only
    rw [same]
    split_ifs <;> first | omega | linarith

/-! ### The nearest multiple of the last place -/

theorem nearest_eq (q : Rat) : nearest q = nearestEven (q / 2 ^ ulp q) * 2 ^ ulp q := by
  unfold nearest
  rw [pow2_eq]
  split
  next zero =>
    have none := nearestEven_intCast 0
    rw [Int.cast_zero] at none
    rw [zero, zero_div, none, Int.cast_zero, zero_mul]
  · rfl

/-- What lies on a coarser grid lies on a finer one. -/
private theorem exists_multiple {fine coarse : Int} (le : fine ≤ coarse) (n : Int) :
    ∃ m : Int, (n : Rat) * 2 ^ coarse = m * 2 ^ fine := by
  obtain ⟨k, rfl⟩ := Int.le.dest le
  refine ⟨n * 2 ^ k, ?_⟩
  push_cast
  rw [zpow_add₀ two_ne_zero, zpow_natCast]
  ring

/-- Rounding does not go below a point of the grid, or of a coarser one. -/
theorem le_nearest {q : Rat} {n e : Int} (coarse : ulp q ≤ e) (le : n * 2 ^ e ≤ q) :
    n * 2 ^ e ≤ nearest q := by
  obtain ⟨m, same⟩ := exists_multiple coarse n
  have positive : (0 : Rat) < 2 ^ ulp q := by positivity
  rw [same] at le ⊢
  have scaled : nearestEven m ≤ nearestEven (q / 2 ^ ulp q) :=
    nearestEven_mono ((le_div_iff₀ positive).mpr le)
  rw [nearestEven_intCast] at scaled
  rw [nearest_eq]
  gcongr

/-- Rounding does not go above a point of the grid, or of a coarser one. -/
theorem nearest_le {q : Rat} {n e : Int} (coarse : ulp q ≤ e) (le : q ≤ n * 2 ^ e) :
    nearest q ≤ n * 2 ^ e := by
  obtain ⟨m, same⟩ := exists_multiple coarse n
  have positive : (0 : Rat) < 2 ^ ulp q := by positivity
  rw [same] at le ⊢
  have scaled : nearestEven (q / 2 ^ ulp q) ≤ nearestEven m :=
    nearestEven_mono ((div_le_iff₀ positive).mpr le)
  rw [nearestEven_intCast] at scaled
  rw [nearest_eq]
  gcongr

theorem nearest_zero : nearest 0 = 0 := if_pos rfl

theorem nearest_nonneg {q : Rat} (nonneg : 0 ≤ q) : 0 ≤ nearest q := by
  have kept := le_nearest (n := 0) (le_refl (ulp q)) (by simpa using nonneg)
  simpa using kept

theorem nearest_nonpos {q : Rat} (nonpos : q ≤ 0) : nearest q ≤ 0 := by
  have kept := nearest_le (n := 0) (le_refl (ulp q)) (by simpa using nonpos)
  simpa using kept

/-- A number and its neighbours of at least its size share their grids, or a power of two between
them is on both grids. -/
private theorem ulp_cases {q r : Rat} (nonzero : q ≠ 0) (le : |q| ≤ |r|) :
    ulp q = ulp r ∨ ∃ e : Int, ulp q ≤ e ∧ ulp r ≤ e ∧ |q| ≤ 2 ^ e ∧ 2 ^ e ≤ |r| := by
  have positive : 0 < |q| := abs_pos.mpr nonzero
  have larger : 0 < |r| := positive.trans_le le
  have mono := Int.log_mono_right (b := 2) positive le
  have below : |q| < 2 ^ (Int.log 2 |q| + 1) := Int.lt_zpow_succ_log_self one_lt_two _
  have above : (2 : Rat) ^ Int.log 2 |r| ≤ |r| := Int.zpow_log_le_self one_lt_two larger
  have uq : ulp q = max (Int.log 2 |q| - 52) (-1074) := by rw [ulp, abs_eq, log2_eq positive]
  have ur : ulp r = max (Int.log 2 |r| - 52) (-1074) := by rw [ulp, abs_eq, log2_eq larger]
  rcases eq_or_ne (ulp q) (ulp r) with same | apart
  · exact Or.inl same
  · refine Or.inr ⟨Int.log 2 |r|, by omega, by omega, ?_, above⟩
    calc
      |q| ≤ 2 ^ (Int.log 2 |q| + 1) := below.le
      _ ≤ 2 ^ Int.log 2 |r| := zpow_le_zpow_right₀ one_le_two (by omega)

theorem nearest_mono {q r : Rat} (le : q ≤ r) : nearest q ≤ nearest r := by
  -- On one grid both numbers are scaled alike, and the nearest integer keeps order.
  have same_grid (same : ulp q = ulp r) : nearest q ≤ nearest r := by
    rw [nearest_eq, nearest_eq, same]
    have scaled : nearestEven (q / 2 ^ ulp r) ≤ nearestEven (r / 2 ^ ulp r) :=
      nearestEven_mono (by gcongr)
    gcongr
  rcases lt_trichotomy q 0 with negative | rfl | positive
  · rcases le_or_gt 0 r with nonneg | both
    · exact (nearest_nonpos negative.le).trans (nearest_nonneg nonneg)
    -- Below zero the greater number has the lesser magnitude.
    · have size : |r| ≤ |q| := by
        rw [abs_of_neg both, abs_of_neg negative]
        exact neg_le_neg le
      rcases ulp_cases both.ne size with same | ⟨e, fineR, fineQ, below, above⟩
      · exact same_grid same.symm
      · rw [abs_of_neg both] at below
        rw [abs_of_neg negative] at above
        calc
          nearest q ≤ ((-1 : Int) : Rat) * 2 ^ e := nearest_le fineQ (by push_cast; linarith)
          _ ≤ nearest r := le_nearest fineR (by push_cast; linarith)
  · exact nearest_zero.le.trans (nearest_nonneg le)
  · have both : 0 < r := positive.trans_le le
    have size : |q| ≤ |r| := by rwa [abs_of_pos positive, abs_of_pos both]
    rcases ulp_cases positive.ne' size with same | ⟨e, fineQ, fineR, below, above⟩
    · exact same_grid same
    · rw [abs_of_pos positive] at below
      rw [abs_of_pos both] at above
      calc
        nearest q ≤ ((1 : Int) : Rat) * 2 ^ e := nearest_le fineQ (by push_cast; linarith)
        _ ≤ nearest r := le_nearest fineR (by push_cast; linarith)

/-! ### Representable numbers -/

/-- A number on its own grid is representable. -/
theorem nearest_eq_self {n e : Int} (coarse : ulp (n * 2 ^ e) ≤ e) :
    nearest (n * 2 ^ e) = n * 2 ^ e :=
  le_antisymm (nearest_le coarse (le_refl _)) (le_nearest coarse (le_refl _))

/-- Numbers of at most 53 bits are representable, unless they are very small. -/
theorem nearest_of_bits {n e : Int} (bits : |n| ≤ 2 ^ 53) (least : -1074 ≤ e) :
    nearest (n * 2 ^ e) = n * 2 ^ e := by
  rcases eq_or_ne n 0 with rfl | nonzero
  · rw [Int.cast_zero, zero_mul, nearest_zero]
  have positive : (0 : Rat) < 2 ^ e := by positivity
  have nonzero : (n : Rat) * 2 ^ e ≠ 0 := mul_ne_zero (Int.cast_ne_zero.mpr nonzero) positive.ne'
  have small {k : Int} (bits : |(n : Rat)| < 2 ^ k) : |(n : Rat) * 2 ^ e| < 2 ^ (k + e) := by
    rw [abs_mul, abs_of_pos positive, zpow_add₀ two_ne_zero]
    gcongr
  rcases bits.lt_or_eq with less | most
  · have fine := ulp_le (small (k := 53) (by exact_mod_cast less)) nonzero
    exact nearest_eq_self (by omega)
  -- The first number of 54 bits is even, so it is one of 53 bits on the next grid.
  · have fine := ulp_le (small (k := 54) (by rw [← Int.cast_abs, most]; norm_num)) nonzero
    obtain ⟨half, rfl⟩ : ∃ half, n = half * 2 := by
      rcases abs_choice n with same | same <;> rw [same] at most
      · exact ⟨2 ^ 52, by omega⟩
      · exact ⟨-2 ^ 52, by omega⟩
    have next : ((half * 2 : Int) : Rat) * 2 ^ e = half * 2 ^ (e + 1) := by
      rw [zpow_add_one₀ two_ne_zero]
      push_cast
      ring
    rw [next] at fine ⊢
    exact nearest_eq_self (by omega)

theorem nearest_intCast {n : Int} (bits : |n| ≤ 2 ^ 53) : nearest n = n := by
  have kept := nearest_of_bits (e := 0) bits (by omega)
  rwa [zpow_zero, mul_one] at kept

theorem nearest_one : nearest 1 = 1 := by
  have kept := nearest_intCast (n := 1) (by norm_num)
  rwa [Int.cast_one] at kept

/-! ### The error -/

theorem nearestEven_error (q : Rat) : |(nearestEven q : Rat) - q| ≤ 1 / 2 := by
  have low : (q.floor : Rat) ≤ q := Rat.le_floor_iff.mp (le_refl _)
  have high : q < q.floor + 1 := by exact_mod_cast Rat.lt_floor_add_one q
  unfold nearestEven
  dsimp only
  split_ifs <;> push_cast <;> rw [abs_le] <;> constructor <;> linarith

/-- Rounding errs by at most half of the last place. -/
theorem nearest_error (q : Rat) : |nearest q - q| ≤ 2 ^ ulp q / 2 := by
  have positive : (0 : Rat) < 2 ^ ulp q := by positivity
  have scaled : nearest q - q =
      ((nearestEven (q / 2 ^ ulp q) : Rat) - q / 2 ^ ulp q) * 2 ^ ulp q := by
    rw [nearest_eq, sub_mul, div_mul_cancel₀ q positive.ne']
  calc
    |nearest q - q| =
        |(nearestEven (q / 2 ^ ulp q) : Rat) - q / 2 ^ ulp q| * 2 ^ ulp q := by
      rw [scaled, abs_mul, abs_of_pos positive]
    _ ≤ 1 / 2 * 2 ^ ulp q := by gcongr; exact nearestEven_error _
    _ = 2 ^ ulp q / 2 := by ring

/-- Below one the last place is at most that of the numbers between a half and one. -/
theorem nearest_error_of_lt_one {q : Rat} (small : |q| < 1) : |nearest q - q| ≤ 1 / 2 ^ 54 := by
  rcases eq_or_ne q 0 with rfl | nonzero
  · norm_num [nearest_zero]
  have fine : ulp q ≤ -53 := by
    have last := ulp_le (e := 0) (by rwa [zpow_zero]) nonzero
    omega
  calc
    |nearest q - q| ≤ 2 ^ ulp q / 2 := nearest_error q
    _ ≤ 2 ^ (-53 : Int) / 2 := by gcongr; exact one_le_two
    _ = 1 / 2 ^ 54 := by norm_num

/-- Unless a number is very small, rounding errs by a small part of it. -/
theorem nearest_error_le {q : Rat} (normal : 2 ^ (-1022 : Int) ≤ |q|) :
    |nearest q - q| ≤ |q| / 2 ^ 53 := by
  have positive : 0 < |q| := lt_of_lt_of_le (by positivity) normal
  have least := (Int.zpow_le_iff_le_log one_lt_two positive).mp normal
  have last : ulp q = Int.log 2 |q| - 52 := by
    rw [ulp, abs_eq, log2_eq positive]
    omega
  calc
    |nearest q - q| ≤ 2 ^ ulp q / 2 := nearest_error q
    _ = 2 ^ Int.log 2 |q| / 2 ^ 53 := by
      rw [last, zpow_sub₀ two_ne_zero]
      norm_num
      ring
    _ ≤ |q| / 2 ^ 53 := by
      gcongr
      exact Int.zpow_log_le_self one_lt_two positive

/-! ### Finite results -/

/-- Rounding does not leave the numbers that are far from the greatest one. -/
theorem nearest_le_two_pow {q : Rat} (size : q ≤ 2 ^ (64 : Int)) : nearest q ≤ 2 ^ (64 : Int) := by
  have limit := nearest_of_bits (n := 1) (e := 64) (by norm_num) (by omega)
  rw [Int.cast_one, one_mul] at limit
  exact limit ▸ nearest_mono size

/-- What is far from the greatest number stays finite. -/
theorem round_eq {q : Rat} (size : |q| ≤ 2 ^ (64 : Int)) : round q = .finite (nearest q) := by
  obtain ⟨low, high⟩ := abs_le.mp size
  have top : nearest q ≤ 2 ^ (64 : Int) := nearest_le_two_pow high
  have bottom : -2 ^ (64 : Int) ≤ nearest q := by
    have limit := nearest_of_bits (n := -1) (e := 64) (by norm_num) (by omega)
    rw [Int.cast_neg, Int.cast_one, neg_one_mul] at limit
    exact limit ▸ nearest_mono low
  have far : (2 : Rat) ^ (64 : Int) < pow2 1024 := by
    rw [pow2_eq]
    exact zpow_lt_zpow_right₀ one_lt_two (by omega)
  unfold round
  dsimp only
  rw [if_neg (by linarith), if_neg (by linarith)]

theorem ofInt_eq {n : Int} (bits : |n| ≤ 2 ^ 53) : ofInt n = .finite n := by
  have size : |(n : Rat)| ≤ 2 ^ (64 : Int) := by
    rw [← Int.cast_abs]
    calc
      ((|n| : Int) : Rat) ≤ ((2 ^ 53 : Int) : Rat) := Int.cast_le.mpr bits
      _ ≤ 2 ^ (64 : Int) := by norm_num
  rw [ofInt, round_eq size, nearest_intCast bits]

/-- What is not negative rounds to such a number or beyond all numbers. -/
theorem round_of_nonneg {q : Rat} (nonneg : 0 ≤ q) :
    round q = .finite (nearest q) ∨ round q = .infinite false := by
  have positive : 0 < pow2 1024 := by
    rw [pow2_eq]
    positivity
  have kept := nearest_nonneg nonneg
  unfold round
  dsimp only
  split_ifs with top bottom
  · exact Or.inr rfl
  · linarith
  · exact Or.inl rfl

/-- What is not positive does not round to anything above zero. -/
theorem lt_round_of_nonpos {q r : Rat} (nonpos : q ≤ 0) (nonneg : 0 ≤ r) :
    lt (.finite r) (round q) = false := by
  have positive : 0 < pow2 1024 := by
    rw [pow2_eq]
    positivity
  have kept := nearest_nonpos nonpos
  unfold round
  dsimp only
  split_ifs with top bottom
  · linarith
  · rfl
  · exact decide_eq_false (by linarith)

end InputActions.Binary64
