import InputActions.Proofs.Sampling

/-!
# When sampling ends

Whether a move takes another sample depends on two rounded numbers, the share of the way that is
left and a tenth of the share of one interval. The comparison fails once the time is up, however
long ago that was and however great the numbers are, so looking at the clock as well changes
nothing (`Motion.continues_eq`). While a whole interval is left it succeeds, if the time has no more
than 52 bits (`Motion.continues_of_room`): then no rounding hides a share of one interval.
-/
namespace InputActions.Motion

open Binary64

variable {interval duration : UInt64} {elapsed : Nat}

/-- The tolerance is a quotient of two numbers of 64 bits, of which a tenth is taken. -/
theorem tolerance_eq (positive : 0 < duration.toNat) (interval : UInt64) :
    let share : Rat := nearest (interval.toNat : Nat) / nearest (duration.toNat : Nat)
    tolerance interval duration = .finite (nearest (nearest share / 10)) ∧
      0 ≤ nearest (nearest share / 10) := by
  intro share
  have least := one_le_nearest positive
  have above : nearest (duration.toNat : Nat) ≠ 0 := by positivity
  have nonneg : 0 ≤ nearest (interval.toNat : Nat) := nearest_nonneg (Nat.cast_nonneg _)
  have shareNonneg : 0 ≤ share := div_nonneg nonneg (zero_le_one.trans least)
  have tenthNonneg : 0 ≤ nearest share / 10 :=
    div_nonneg (nearest_nonneg shareNonneg) (by norm_num)
  have word : (interval.toNat : Rat) ≤ 2 ^ (64 : Int) := by
    have limit := interval.toNat_lt
    exact_mod_cast limit.le
  have size : share ≤ 2 ^ (64 : Int) := (div_le_self nonneg least).trans (nearest_le_two_pow word)
  have tenthSize : nearest share / 10 ≤ 2 ^ (64 : Int) :=
    (div_le_self (nearest_nonneg shareNonneg) (by norm_num)).trans (nearest_le_two_pow size)
  have ten : ofNat 10 = .finite 10 := ofInt_eq (n := 10) (by norm_num)
  refine ⟨?_, nearest_nonneg tenthNonneg⟩
  change div (div (ofNat _) (ofNat _)) (ofNat 10) = _
  rw [ofNat_eq (le_refl _), ofNat_eq (le_refl _), ten, div, if_neg above,
    round_eq (by rwa [abs_of_nonneg shareNonneg]), div, if_neg (by norm_num),
    round_eq (by rwa [abs_of_nonneg tenthNonneg])]

/-! ### The time is up -/

/-- Once the time is up, the share of the way is at least the whole, or beyond all numbers. -/
theorem share_of_late (positive : 0 < duration.toNat) (late : duration.toNat ≤ elapsed) :
    share elapsed duration = .infinite false ∨
      ∃ part, 1 ≤ part ∧ share elapsed duration = .finite part := by
  have least := one_le_nearest positive
  have order : nearest (duration.toNat : Nat) ≤ nearest elapsed :=
    nearest_mono (by exact_mod_cast late)
  have whole : 1 ≤ nearest elapsed / nearest (duration.toNat : Nat) :=
    (one_le_div (by linarith)).mpr order
  unfold share
  change div (ofNat elapsed) (ofNat duration.toNat) = _ ∨
    ∃ part, 1 ≤ part ∧ div (ofNat elapsed) (ofNat duration.toNat) = _
  rw [ofNat_eq (le_refl duration.toNat)]
  rcases round_of_nonneg (Nat.cast_nonneg elapsed) with finite | infinite
  · rw [ofNat, finite, div, if_neg (by linarith)]
    rcases round_of_nonneg (zero_le_one.trans whole) with finite | infinite
    · exact Or.inr ⟨_, nearest_one.symm.trans_le (nearest_mono whole), finite⟩
    · exact Or.inl infinite
  · have above : ¬nearest (duration.toNat : Nat) < 0 := by linarith
    rw [ofNat, infinite, div]
    simp [above]

/-- Once the time is up, nothing is left that exceeds the tolerance. -/
theorem tolerance_lt_of_late (positive : 0 < duration.toNat) (late : duration.toNat ≤ elapsed)
    (interval : UInt64) :
    (tolerance interval duration).lt (.one - share elapsed duration) = false := by
  obtain ⟨same, nonneg⟩ := tolerance_eq positive interval
  rw [same]
  rcases share_of_late positive late with infinite | ⟨part, beyond, finite⟩
  · rw [infinite]
    rfl
  · rw [finite]
    exact lt_round_of_nonpos (by linarith) nonneg

/-- Whether a sample is due is what the comparison says: looking at the clock as well repeats it. -/
theorem continues_eq (positive : 0 < duration.toNat) (interval : UInt64) (elapsed : Nat) :
    continues interval duration elapsed =
      (tolerance interval duration).lt (.one - share elapsed duration) := by
  unfold continues
  rcases Nat.lt_or_ge elapsed duration.toNat with left | late
  · rw [decide_eq_true left, Bool.true_and]
  · rw [tolerance_lt_of_late positive late, Bool.and_false]

/-! ### A whole interval is left -/

/-- A tenth of a share of the way is less than all that is left, if what is left is at least that
share. -/
private theorem nearest_tenth_lt {part gone : Rat} (tiny : 1 / 2 ^ 52 ≤ part) (nonneg : 0 ≤ gone)
    (sum : gone + part ≤ 1) : nearest (nearest part / 10) < nearest (1 + -nearest gone) := by
  have error {q : Rat} (large : 1 / 2 ^ 60 ≤ q) : |nearest q - q| ≤ q / 2 ^ 53 := by
    have positive : 0 < q := lt_of_lt_of_le (by norm_num) large
    have normal : 2 ^ (-1022 : Int) ≤ |q| :=
      calc
        (2 : Rat) ^ (-1022 : Int) ≤ 2 ^ (-60 : Int) := zpow_le_zpow_right₀ one_le_two (by omega)
        _ = 1 / 2 ^ 60 := by norm_num
        _ ≤ q := large
        _ = |q| := (abs_of_pos positive).symm
    exact (nearest_error_le normal).trans_eq (by rw [abs_of_pos positive])
  -- The share that is gone is missed by less than a fourth of the share that is left.
  have missed := abs_le.mp (nearest_error_of_lt_one (q := gone) (by
    rw [abs_of_nonneg nonneg]
    linarith))
  have share := abs_le.mp (error (q := part) (by linarith))
  have tenth := abs_le.mp (error (q := nearest part / 10) (by linarith))
  have left := abs_le.mp (error (q := 1 + -nearest gone) (by linarith))
  linarith

/-- While a whole interval is left, sampling goes on. -/
theorem continues_of_room (room : elapsed + interval.toNat ≤ duration.toNat)
    (positive : 0 < interval.toNat) (bits : duration.toNat ≤ 2 ^ 52) :
    continues interval duration elapsed = true := by
  have represented {n : Nat} (le : n ≤ duration.toNat) : nearest (n : Nat) = n :=
    nearest_intCast (n := n) (abs_le.mpr (by omega))
  have least : (1 : Rat) ≤ duration.toNat := by exact_mod_cast (show 1 ≤ duration.toNat by omega)
  have most : (duration.toNat : Rat) ≤ 2 ^ 52 := by exact_mod_cast bits
  rw [continues_eq (by omega), (tolerance_eq (by omega) interval).1,
    (share_eq (show elapsed < duration.toNat by omega)).1, represented (by omega),
    represented (le_refl _), represented (show elapsed ≤ duration.toNat by omega)]
  have tiny : (1 : Rat) / 2 ^ 52 ≤ interval.toNat / duration.toNat := by
    gcongr
    exact_mod_cast positive
  have nonneg : (0 : Rat) ≤ elapsed / duration.toNat := by positivity
  have sum : (elapsed : Rat) / duration.toNat + interval.toNat / duration.toNat ≤ 1 := by
    rw [← add_div]
    exact div_le_one_of_le₀ (by exact_mod_cast room) (by linarith)
  generalize (interval.toNat : Rat) / duration.toNat = part at tiny sum
  generalize (elapsed : Rat) / duration.toNat = gone at nonneg sum
  have size : |1 + -nearest gone| ≤ 2 ^ (64 : Int) := by
    have above := nearest_nonneg nonneg
    have below : nearest gone ≤ 1 := (nearest_mono (by linarith)).trans_eq nearest_one
    rw [abs_of_nonneg (by linarith)]
    linarith [show (1 : Rat) ≤ 2 ^ (64 : Int) by norm_num]
  have rest : Binary64.one - .finite (nearest gone) = .finite (nearest (1 + -nearest gone)) :=
    round_eq size
  rw [rest]
  exact decide_eq_true (nearest_tenth_lt tiny nonneg sum)

end InputActions.Motion
