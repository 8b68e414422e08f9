import Mathlib.Algebra.Order.Ring.Rat
import Mathlib.Data.Nat.Sqrt
import Mathlib.Data.Rat.Floor
import Mathlib.Tactic.FieldSimp
import RoadTraffic.Proofs.Scalar.Exact

/-!
# Rational numbers as scalars

An exact scalar that computes, for the runs in which a statement is met or fails. The root of a
fraction is exact where there is one and rounded up otherwise. Angles, exponentials and logarithms
have no rational values; what stands for them here is exact at zero, or at one for the logarithm,
where straight roads along an axis need them.
-/

namespace RoadTraffic.Rational

/-- The root of a fraction, rounded up to a multiple of one part in its denominator. -/
def sqrt (q : Rat) : Rat :=
  let square := q.num.toNat * q.den
  let root := Nat.sqrt square
  ((if root * root = square then root else root + 1 : Nat) : Rat) / q.den

/-- The nearest integer; a half goes away from zero. -/
def round (q : Rat) : Rat :=
  if q < 0 then -((-q + 1 / 2).floor : Rat) else ((q + 1 / 2).floor : Rat)

/-- The remainder of the truncated quotient. -/
def rem (a b : Rat) : Rat :=
  let quotient := a / b
  a - b * (if quotient < 0 then -((-quotient).floor : Rat) else (quotient.floor : Rat))

instance : Scalar Rat where
  add a b := a + b
  sub a b := a - b
  mul a b := a * b
  div a b := a / b
  neg a := -a
  lt a b := a < b
  le a b := a ≤ b
  decLt a b := inferInstanceAs (Decidable (a < b))
  decLe a b := inferInstanceAs (Decidable (a ≤ b))
  totalLe a b := decide (a ≤ b)
  ofNat n := n
  infinity := 10 ^ 300
  pi := 355 / 113
  sqrt := sqrt
  sin a := a
  cos _ := 1
  acos a := 1 - a
  atan2 _ _ := 0
  exp a := 1 + a
  log a := a - 1
  floor a := (a.floor : Rat)
  round := round
  rem := rem
  toNat limit a := min limit a.floor.toNat
  nextBelow a := a
  single a := a

/-- Rounding up keeps a root above every number whose square the fraction reaches. -/
theorem le_sqrt {a b : Rat} (ha : 0 ≤ a) (hab : a * a ≤ b) : a ≤ sqrt b := by
  have hden : (0 : Rat) < b.den := by exact_mod_cast b.den_pos
  have hb : 0 ≤ b := le_trans (mul_nonneg ha ha) hab
  have hnum : ((b.num.toNat : Nat) : Rat) = b * b.den := by
    have hnonneg : 0 ≤ b.num := Rat.num_nonneg.mpr hb
    have hcast : ((b.num.toNat : Nat) : Rat) = (b.num : Rat) := by
      exact_mod_cast Int.toNat_of_nonneg hnonneg
    rw [hcast, Rat.mul_den_eq_num]
  unfold sqrt
  simp only
  rw [le_div_iff₀ hden]
  -- counted in parts of the denominator, the root is one of a natural number
  generalize hsquare : b.num.toNat * b.den = square
  have hsquare : (square : Rat) = b * b.den * b.den := by
    rw [← hsquare, Nat.cast_mul, hnum]
  have hle : (a * b.den) * (a * b.den) ≤ square := by
    rw [hsquare]
    nlinarith [mul_pos hden hden]
  -- exact or one up, the natural root reaches the number
  have hroot : (square : Rat) ≤
      ((if Nat.sqrt square * Nat.sqrt square = square then Nat.sqrt square
        else Nat.sqrt square + 1 : Nat) : Rat) ^ 2 := by
    split
    · next hexact =>
      rw [pow_two]
      exact_mod_cast hexact.ge
    · have hlt := Nat.lt_succ_sqrt square
      rw [pow_two]
      exact_mod_cast hlt.le
  refine le_of_sq_le_sq ?_ (by positivity)
  rw [pow_two]
  exact le_trans hle hroot

instance : ExactScalar Rat where
  add_eq _ _ := rfl
  sub_eq _ _ := rfl
  mul_eq _ _ := rfl
  div_eq _ _ := rfl
  neg_eq _ := rfl
  lt_iff _ _ := Iff.rfl
  le_iff _ _ := Iff.rfl
  ofNat_eq _ := rfl
  le_sqrt _ _ := le_sqrt

instance : SortedScalar Rat where
  totalLe_iff _ _ := decide_eq_true_iff

end RoadTraffic.Rational
