import InputActions.Motion
import InputActions.Proofs.Rounding

/-!
# Samples of a move

A sample of a move lies between its start and its target (`Motion.between_mem`), although the share
of the way, the product and the sum are all rounded: rounding keeps order, and the ends of the way
are integers that floating point numbers represent. The share of the way is a number between zero
and one for as long as samples are taken (`Motion.share_mem`), and a later sample is nearer to the
target, or as near (`Motion.between_mono`).
-/
namespace InputActions

/-- The difference of two positions that are not negative is a coordinate. -/
theorem Coordinate.toInt_sub {a b : Int64} (ha : 0 ≤ a.toInt) (hb : 0 ≤ b.toInt) :
    (a - b).toInt = a.toInt - b.toInt := by
  have aTop := Int64.toInt_lt a
  have bTop := Int64.toInt_lt b
  rw [Int64.toInt_sub]
  exact Int.bmod_eq_of_le (by omega) (by omega)

namespace Binary64

theorem toInt_toInt64 {n : Int} (low : Int64.minValue.toInt ≤ n) (high : n ≤ Int64.maxValue.toInt) :
    (finite n).toInt64.toInt = n := by
  have whole : (if (0 : Rat) ≤ n then (n : Rat).floor else (n : Rat).ceil) = n := by
    split
    · exact Rat.floor_intCast n
    · exact Rat.ceil_intCast n
  unfold toInt64
  dsimp only
  rw [whole]
  split_ifs with top bottom
  · exact le_antisymm top high
  · exact le_antisymm low bottom
  · exact Int64.toInt_ofInt_of_le low (by rw [Int64.toInt_maxValue] at high; omega)

/-- Rounding down to a coordinate stays between coordinates. -/
theorem toInt64_floor_mem {q : Rat} {low high : Int} (least : Int64.minValue.toInt ≤ low)
    (most : high ≤ Int64.maxValue.toInt) (above : low ≤ q) (below : q ≤ high) :
    (finite q).floor.toInt64.toInt = q.floor ∧ low ≤ q.floor ∧ q.floor ≤ high := by
  have floorLow : low ≤ q.floor := Rat.le_floor_iff.mpr above
  have floorHigh : q.floor ≤ high := by
    have mono := Rat.floor_monotone below
    rwa [Rat.floor_intCast] at mono
  exact ⟨toInt_toInt64 (by omega) (by omega), floorLow, floorHigh⟩

end Binary64

namespace Motion

open Binary64

theorem ofNat_eq {n : Nat} {word : UInt64} (le : n ≤ word.toNat) :
    ofNat n = .finite (nearest n) := by
  have limit := word.toNat_lt
  refine round_eq ?_
  rw [Nat.abs_cast]
  exact_mod_cast (show n ≤ 2 ^ 64 by omega)

theorem one_le_nearest {word : UInt64} (positive : 0 < word.toNat) :
    1 ≤ nearest (word.toNat : Nat) := by
  have least : nearest 1 ≤ nearest (word.toNat : Nat) := nearest_mono (by exact_mod_cast positive)
  rwa [nearest_one] at least

/-- While time is left, the share of the way is that of two numbers of 64 bits, rounded twice. -/
theorem share_eq {elapsed : Nat} {duration : UInt64} (left : elapsed < duration.toNat) :
    share elapsed duration =
        .finite (nearest (nearest elapsed / nearest (duration.toNat : Nat))) ∧
      0 ≤ nearest elapsed / nearest (duration.toNat : Nat) ∧
      nearest elapsed / nearest (duration.toNat : Nat) ≤ 1 := by
  -- The time that has passed is not rounded to more than the whole time.
  have order : nearest elapsed ≤ nearest duration.toNat := nearest_mono (by exact_mod_cast left.le)
  have nonneg : 0 ≤ nearest elapsed := nearest_nonneg (Nat.cast_nonneg _)
  have least := one_le_nearest (show 0 < duration.toNat by omega)
  have positive : 0 < nearest (duration.toNat : Nat) := by linarith
  have quotient : 0 ≤ nearest elapsed / nearest duration.toNat := by positivity
  have whole : nearest elapsed / nearest duration.toNat ≤ 1 := (div_le_one positive).mpr order
  refine ⟨?_, quotient, whole⟩
  change div (ofNat _) (ofNat _) = _
  rw [ofNat_eq left.le, ofNat_eq (le_refl _), div, if_neg positive.ne']
  exact round_eq (by rw [abs_of_nonneg quotient]; exact whole.trans (by norm_num))

/-- While time is left, the share of the way that belongs to the time that has passed is a number
between zero and one. -/
theorem share_mem {elapsed : Nat} {duration : UInt64} (left : elapsed < duration.toNat) :
    ∃ part : Rat, share elapsed duration = .finite part ∧ 0 ≤ part ∧ part ≤ 1 := by
  obtain ⟨same, quotient, whole⟩ := share_eq left
  exact ⟨_, same, nearest_nonneg quotient, (nearest_mono whole).trans_eq nearest_one⟩

/-- As time passes the share of the way grows. -/
theorem share_mono {earlier later : Nat} {duration : UInt64} (le : earlier ≤ later)
    (left : later < duration.toNat) :
    ∃ part whole : Rat, share earlier duration = .finite part ∧
      share later duration = .finite whole ∧ 0 ≤ part ∧ part ≤ whole ∧ whole ≤ 1 := by
  obtain ⟨same, quotient, -⟩ := share_eq (le.trans_lt left)
  obtain ⟨same', -, whole⟩ := share_eq left
  refine ⟨_, _, same, same', nearest_nonneg quotient, nearest_mono ?_,
    (nearest_mono whole).trans_eq nearest_one⟩
  have order : nearest earlier ≤ nearest later := nearest_mono (by exact_mod_cast le)
  have nonneg : 0 ≤ nearest (duration.toNat : Nat) := nearest_nonneg (Nat.cast_nonneg _)
  gcongr

/-- A product with a share of the way does not leave the way. -/
private theorem nearest_mul_mem {part : Rat} (nonneg : 0 ≤ part) (whole : part ≤ 1) {way : Int}
    (bits : |way| ≤ 2 ^ 53) :
    min 0 (way : Rat) ≤ nearest (part * way) ∧ nearest (part * way) ≤ max 0 (way : Rat) := by
  rcases le_total 0 way with forward | backward
  · have forward : (0 : Rat) ≤ way := by exact_mod_cast forward
    have within : part * way ≤ way := mul_le_of_le_one_left forward whole
    rw [min_eq_left forward, max_eq_right forward]
    exact ⟨nearest_nonneg (mul_nonneg nonneg forward),
      (nearest_mono within).trans_eq (nearest_intCast bits)⟩
  · have backward : (way : Rat) ≤ 0 := by exact_mod_cast backward
    have within : (way : Rat) ≤ part * way := le_mul_of_le_one_left backward whole
    rw [min_eq_right backward, max_eq_left backward]
    exact ⟨(nearest_intCast bits).symm.trans_le (nearest_mono within),
      nearest_nonpos (mul_nonpos_of_nonneg_of_nonpos nonneg backward)⟩

/-- A product with a share of the way is far from the greatest number. -/
private theorem mul_ofInt_eq {part : Rat} (nonneg : 0 ≤ part) (whole : part ≤ 1) {way : Int}
    (bits : |way| ≤ 2 ^ 53) :
    Binary64.finite part * ofInt way = .finite (nearest (part * way)) := by
  rw [ofInt_eq bits]
  refine round_eq ?_
  calc
    |part * way| = part * |(way : Rat)| := by rw [abs_mul, abs_of_nonneg nonneg]
    _ ≤ |(way : Rat)| := mul_le_of_le_one_left (abs_nonneg _) whole
    _ ≤ 2 ^ 53 := by exact_mod_cast bits
    _ ≤ 2 ^ (64 : Int) := by norm_num

section
variable {start target : Int64} {part : Rat} (nonneg : 0 ≤ part) (whole : part ≤ 1)
  {low high : Int} (least : 0 ≤ low) (most : high ≤ 2 ^ 53)
  (startMem : low ≤ start.toInt ∧ start.toInt ≤ high)
  (targetMem : low ≤ target.toInt ∧ target.toInt ≤ high)
include nonneg whole least most startMem targetMem

/-- Before the last rounding a sample lies wherever both ends of the way lie: these are not rounded
away. -/
private theorem sum_mem {way : Int} (ends : target.toInt - start.toInt = way) :
    (low : Rat) ≤ nearest (part * way) + start.toInt ∧
      nearest (part * way) + start.toInt ≤ high := by
  obtain ⟨startLow, startHigh⟩ := startMem
  obtain ⟨targetLow, targetHigh⟩ := targetMem
  have bits : |way| ≤ 2 ^ 53 := abs_le.mpr (by omega)
  obtain ⟨above, below⟩ := nearest_mul_mem nonneg whole bits
  have ends : (way : Rat) = target.toInt - start.toInt := by
    rw [← ends]
    push_cast
    rfl
  have startLow : (low : Rat) ≤ start.toInt := by exact_mod_cast startLow
  have startHigh : (start.toInt : Rat) ≤ high := by exact_mod_cast startHigh
  have targetLow : (low : Rat) ≤ target.toInt := by exact_mod_cast targetLow
  have targetHigh : (target.toInt : Rat) ≤ high := by exact_mod_cast targetHigh
  constructor
  · rcases min_le_iff.mp above with zero | far <;> linarith
  · rcases le_max_iff.mp below with zero | far <;> linarith

/-- A sample is rounded three times: as a product, as a sum, and down to an integer. -/
private theorem between_eq {way : Int} (ends : target.toInt - start.toInt = way) :
    (between start target (.finite part)).toInt =
        (nearest (nearest (part * way) + start.toInt)).floor ∧
      low ≤ (nearest (nearest (part * way) + start.toInt)).floor ∧
      (nearest (nearest (part * way) + start.toInt)).floor ≤ high := by
  obtain ⟨above, below⟩ := sum_mem nonneg whole least most startMem targetMem ends
  have difference : (target - start).toInt = way := by
    rw [Coordinate.toInt_sub (by omega) (by omega), ends]
  have bits : |way| ≤ 2 ^ 53 := abs_le.mpr (by omega)
  have lowNonneg : (0 : Rat) ≤ low := by exact_mod_cast least
  have highLimit : (high : Rat) ≤ 2 ^ 53 := by exact_mod_cast most
  have limit : (2 : Rat) ^ 53 ≤ 2 ^ (64 : Int) := by norm_num
  have finite : Binary64.finite (nearest (part * way)) + .finite start.toInt =
      .finite (nearest (nearest (part * way) + start.toInt)) :=
    round_eq (abs_le.mpr (by constructor <;> linarith))
  unfold between
  rw [difference, mul_ofInt_eq nonneg whole bits, ofInt_eq (abs_le.mpr (by omega)), finite]
  refine toInt64_floor_mem (by rw [Int64.toInt_minValue]; omega)
    (by rw [Int64.toInt_maxValue]; omega) ?_ ?_
  · have kept : nearest low = low := nearest_intCast (abs_le.mpr (by omega))
    exact kept.symm.trans_le (nearest_mono above)
  · have kept : nearest high = high := nearest_intCast (abs_le.mpr (by omega))
    exact (nearest_mono below).trans_eq kept

/-- A sample lies wherever both ends of the way lie. -/
theorem between_mem :
    low ≤ (between start target (.finite part)).toInt ∧
      (between start target (.finite part)).toInt ≤ high := by
  obtain ⟨same, above, below⟩ := between_eq nonneg whole least most startMem targetMem rfl
  rw [same]
  exact ⟨above, below⟩

end

/-- With a greater share of the way a sample is nearer to the target, or as near, whether the way
leads up or down. -/
theorem between_mono {start target : Int64} {part further : Rat} (nonneg : 0 ≤ part)
    (le : part ≤ further) (whole : further ≤ 1)
    (startMem : 0 ≤ start.toInt ∧ start.toInt ≤ 2 ^ 53)
    (targetMem : 0 ≤ target.toInt ∧ target.toInt ≤ 2 ^ 53) :
    (start.toInt ≤ target.toInt → (between start target (.finite part)).toInt ≤
        (between start target (.finite further)).toInt) ∧
      (target.toInt ≤ start.toInt → (between start target (.finite further)).toInt ≤
        (between start target (.finite part)).toInt) := by
  obtain ⟨way, ends⟩ : ∃ way, target.toInt - start.toInt = way := ⟨_, rfl⟩
  rw [(between_eq nonneg (le.trans whole) (le_refl 0) (le_refl _) startMem targetMem ends).1,
    (between_eq (nonneg.trans le) whole (le_refl 0) (le_refl _) startMem targetMem ends).1]
  constructor
  · intro up
    have forward : (0 : Rat) ≤ way := by exact_mod_cast (show 0 ≤ way by omega)
    refine Rat.floor_monotone (nearest_mono ?_)
    gcongr
    exact nearest_mono (mul_le_mul_of_nonneg_right le forward)
  · intro down
    have backward : (way : Rat) ≤ 0 := by exact_mod_cast (show way ≤ 0 by omega)
    refine Rat.floor_monotone (nearest_mono ?_)
    gcongr
    exact nearest_mono (mul_le_mul_of_nonpos_right le backward)

end Motion

end InputActions
