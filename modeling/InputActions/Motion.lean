import InputActions.Failure
import InputActions.Numeric.Binary64

/-!
# Pointer motion

A move goes from where the pointer is to a target. The target is the base of the move plus an
offset, and it must be a point inside the viewport. A move that takes time is sampled: the sample
at a share of the way lies on the line from the start to the target, rounded down to whole
coordinates, all in binary floating point.

Sampling goes on while the share of the way that is left exceeds a tenth of a sample interval.
Once the time is up nothing is left, so a move whose time is up has no further sample
(`elapsed_lt_of_continues`).
-/

namespace InputActions.Motion

/-- The target of a move, if it can be reached. -/
def target (viewport : Viewport) (base : Point) (dx dy : Int64) : Except OutOfBounds Point :=
  match base.offset? dx dy with
  | none => .error (.overflow base dx dy)
  | some target =>
    if viewport.contains target then .ok target else .error (.outside target viewport)

/-- The share of the way that belongs to the time that has passed. -/
def share (elapsed : Nat) (duration : UInt64) : Binary64 :=
  .ofNat elapsed / .ofNat duration.toNat

/-- What may be left of the way at the end: a tenth of the way covered in one interval. -/
def tolerance (interval duration : UInt64) : Binary64 :=
  .ofNat interval.toNat / .ofNat duration.toNat / .ofNat 10

/-- Whether a sample is due before the target is reached. -/
def continues (interval duration : UInt64) (elapsed : Nat) : Bool :=
  decide (elapsed < duration.toNat) &&
    (tolerance interval duration).lt (.one - share elapsed duration)

theorem elapsed_lt_of_continues {interval duration : UInt64} {elapsed : Nat}
    (h : continues interval duration elapsed = true) : elapsed < duration.toNat := by
  simp only [continues, Bool.and_eq_true, decide_eq_true_eq] at h
  exact h.1

/-- A coordinate at a share of the way. -/
def between (start target : Int64) (share : Binary64) : Int64 :=
  (share * .ofInt (target - start).toInt + .ofInt start.toInt).floor.toInt64

/-- The point at a share of the way. -/
def interpolate (start target : Point) (share : Binary64) : Point :=
  ⟨between start.x target.x share, between start.y target.y share⟩

end InputActions.Motion
