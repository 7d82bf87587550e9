import Mathlib.Algebra.Ring.Nat
import Mathlib.Order.MinMax

/-!
# Saturating arithmetic

An operation that saturates clips its result at a limit. Clipping before a
further multiplication is lost in clipping after it, and no clipping above a cap
is seen below the cap: a capped product is that of unbounded numbers.
-/

namespace Foundation

def clip (limit x : Nat) : Nat := min x limit

theorem clip_of_le {limit x : Nat} (within : x ≤ limit) : clip limit x = x := min_eq_left within

theorem clip_of_ge {limit x : Nat} (beyond : limit ≤ x) : clip limit x = limit :=
  min_eq_right beyond

theorem clip_le (limit x : Nat) : clip limit x ≤ limit := min_le_right x limit

/-- A factor may be clipped first. -/
theorem clip_clip_mul (limit x y : Nat) : clip limit (clip limit x * y) = clip limit (x * y) := by
  rcases le_total x limit with within | beyond
  · rw [clip_of_le within]
  · rw [clip_of_ge beyond]
    rcases Nat.eq_zero_or_pos y with rfl | positive
    · rfl
    · have large : limit ≤ limit * y := Nat.le_mul_of_pos_right limit positive
      have larger : limit ≤ x * y := large.trans (Nat.mul_le_mul_right y beyond)
      rw [clip_of_ge large, clip_of_ge larger]

theorem clip_mul_clip (limit x y : Nat) : clip limit (x * clip limit y) = clip limit (x * y) := by
  rw [Nat.mul_comm, clip_clip_mul, Nat.mul_comm]

/-- A lower cap hides the limit. -/
theorem clip_clip {cap limit : Nat} (lower : cap ≤ limit) (x : Nat) :
    clip cap (clip limit x) = clip cap x := by
  rw [clip, clip, clip, min_assoc, min_eq_right lower]

/-- A power that saturates in every multiplication. -/
def saturatingPower (limit base : Nat) : Nat → Nat
  | 0 => clip limit 1
  | n + 1 => clip limit (saturatingPower limit base n * base)

theorem saturatingPower_eq (limit base n : Nat) :
    saturatingPower limit base n = clip limit (base ^ n) := by
  induction n with
  | zero => rfl
  | succ n ih => rw [saturatingPower, ih, clip_clip_mul, Nat.pow_succ]

end Foundation
