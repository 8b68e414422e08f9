import Mathlib.Tactic.LinearCombination
import RoadTraffic.Proofs.Scalar.Rational
import RoadTraffic.Proofs.Scalar.Real

/-!
# Whole numbers in exact arithmetic

What exact scalars do where numbers are cut down to whole ones: the floor, the remainder and the
conversion to a natural number (`FlooredScalar`). A remainder of the truncated quotient that is
brought above zero is the part of a number beyond the last multiple (`modulo_eq`).
-/

namespace RoadTraffic

/-- A number format whose floors and remainders are exact. -/
class FlooredScalar (K : Type) [Field K] [LinearOrder K] [FloorRing K] [Scalar K] : Prop where
  floor_eq : ∀ a : K, Scalar.floor a = ⌊a⌋
  rem_of_nonneg : ∀ a b : K, 0 ≤ a / b → Scalar.rem a b = a - b * ⌊a / b⌋
  rem_of_neg : ∀ a b : K, a / b < 0 → Scalar.rem a b = a + b * ⌊-(a / b)⌋
  toNat_eq : ∀ (limit : Nat) (a : K), Scalar.toNat limit a = min limit ⌊a⌋.toNat

namespace FlooredScalar

open ExactScalar

variable {K : Type} [Field K] [LinearOrder K] [IsStrictOrderedRing K] [FloorRing K] [Scalar K]
  [ExactScalar K] [FlooredScalar K]

/-- What is left of a number beyond the last multiple of another one. -/
theorem modulo_eq (a : K) {m : K} (hm : 0 < m) : Scalar.modulo a m = m * Int.fract (a / m) := by
  have hquotient : a = m * (a / m) := (mul_div_cancel₀ a hm.ne').symm
  unfold Scalar.modulo
  simp only [scalar_lt_iff, scalar_add_eq, scalar_ofNat_eq, Nat.cast_zero]
  rcases le_or_gt 0 (a / m) with h | h
  · have hrem : Scalar.rem a m = m * Int.fract (a / m) := by
      rw [rem_of_nonneg a m h, ← Int.self_sub_floor]
      linear_combination hquotient
    rw [hrem, if_neg (not_lt.mpr (mul_nonneg hm.le (Int.fract_nonneg _)))]
  · have hrem : Scalar.rem a m = -(m * Int.fract (-(a / m))) := by
      rw [rem_of_neg a m h, ← Int.self_sub_floor]
      linear_combination hquotient
    rw [hrem]
    by_cases hwhole : Int.fract (a / m) = 0
    · rw [Int.fract_neg_eq_zero.mpr hwhole, hwhole, mul_zero, neg_zero, if_neg (lt_irrefl 0)]
    · -- the remainder lies below zero, as far from the multiple below as it is from zero
      have hpart : 0 < Int.fract (-(a / m)) :=
        lt_of_le_of_ne (Int.fract_nonneg _) fun h => hwhole (Int.fract_neg_eq_zero.mp h.symm)
      rw [if_pos (neg_neg_of_pos (mul_pos hm hpart)), Int.fract_neg hwhole]
      ring

end FlooredScalar

instance : FlooredScalar Rat where
  floor_eq _ := rfl
  rem_of_nonneg a b h := by
    change a - b * (if a / b < 0 then _ else _) = _
    rw [if_neg (not_lt.mpr h)]
    rfl
  rem_of_neg a b h := by
    change a - b * (if a / b < 0 then _ else _) = _
    rw [if_pos h, mul_neg, sub_neg_eq_add]
    rfl
  toNat_eq _ _ := rfl

instance : FlooredScalar ℝ where
  floor_eq _ := rfl
  rem_of_nonneg a b h := by
    change Reals.rem a b = _
    unfold Reals.rem
    rw [if_neg (not_lt.mpr h)]
  rem_of_neg a b h := by
    change Reals.rem a b = _
    unfold Reals.rem
    rw [if_pos h, Int.cast_neg, mul_neg, sub_neg_eq_add]
  toNat_eq limit a := by
    change min limit ⌊a⌋₊ = _
    rw [Int.floor_toNat]

end RoadTraffic
