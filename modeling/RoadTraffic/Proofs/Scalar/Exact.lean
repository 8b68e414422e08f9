import Mathlib.Algebra.Order.Field.Basic
import Mathlib.Tactic.Linarith
import Mathlib.Tactic.Ring
import RoadTraffic.Proofs.Scalar.Order

/-!
# Exact scalars

`ExactScalar` is for statements about exact arithmetic: the operations of the number format are
those of an ordered field, and no square root comes out too small. The real numbers are such a
format, and so are the rational ones with roots that are rounded up. What is not said about sorting
and about roots can be added (`SortedScalar`, `RootedScalar`).

The operators that a definition over `Scalar` is written with are not, as terms, those of the field.
The `_eq` lemmas at the end of the module lead from the former to the latter; they are what a proof
about an exact scalar begins with.
-/

namespace RoadTraffic

/-- A number format that calculates as an ordered field does. -/
class ExactScalar (K : Type) [Field K] [LinearOrder K] [IsStrictOrderedRing K] [Scalar K] :
    Prop where
  add_eq : ∀ a b : K, Scalar.add a b = a + b
  sub_eq : ∀ a b : K, Scalar.sub a b = a - b
  mul_eq : ∀ a b : K, Scalar.mul a b = a * b
  div_eq : ∀ a b : K, Scalar.div a b = a / b
  neg_eq : ∀ a : K, Scalar.neg a = -a
  lt_iff : ∀ a b : K, Scalar.lt a b ↔ a < b
  le_iff : ∀ a b : K, Scalar.le a b ↔ a ≤ b
  ofNat_eq : ∀ n : Nat, (Scalar.ofNat n : K) = n
  /-- A number whose square is at most `b` is at most the root of `b`. -/
  le_sqrt : ∀ a b : K, 0 ≤ a → a * a ≤ b → a ≤ Scalar.sqrt b

/-- A number format that sorts by the order of its numbers. -/
class SortedScalar (K : Type) [LinearOrder K] [Scalar K] : Prop where
  totalLe_iff : ∀ a b : K, Scalar.totalLe a b = true ↔ a ≤ b

/-- A number format in which the root of a number is one, unless the number is negative. -/
class RootedScalar (K : Type) [Field K] [LinearOrder K] [Scalar K] : Prop where
  sqrt_mul_self : ∀ b : K, 0 ≤ b → Scalar.sqrt b * Scalar.sqrt b = b

namespace ExactScalar

variable {K : Type} [Field K] [LinearOrder K] [IsStrictOrderedRing K] [Scalar K] [ExactScalar K]

theorem scalar_add_eq (a b : K) : @HAdd.hAdd K K K (@instHAdd K Scalar.instAdd) a b = a + b :=
  add_eq a b

theorem scalar_sub_eq (a b : K) : @HSub.hSub K K K (@instHSub K Scalar.instSub) a b = a - b :=
  sub_eq a b

theorem scalar_mul_eq (a b : K) : @HMul.hMul K K K (@instHMul K Scalar.instMul) a b = a * b :=
  mul_eq a b

theorem scalar_div_eq (a b : K) : @HDiv.hDiv K K K (@instHDiv K Scalar.instDiv) a b = a / b :=
  div_eq a b

theorem scalar_neg_eq (a : K) : @Neg.neg K Scalar.instNeg a = -a := neg_eq a

theorem scalar_lt_iff (a b : K) : @LT.lt K Scalar.instLT a b ↔ a < b := lt_iff a b

theorem scalar_le_iff (a b : K) : @LE.le K Scalar.instLE a b ↔ a ≤ b := le_iff a b

theorem scalar_ofNat_eq (n : Nat) : @OfNat.ofNat K n (Scalar.instOfNat n) = (n : K) := ofNat_eq n

/-- The order of an exact scalar is total, so all of its values are ordered. -/
instance : OrderedScalar K where
  lt_iff a b := by
    rw [scalar_lt_iff, scalar_le_iff, scalar_le_iff]
    exact lt_iff_le_not_ge
  le_trans a b c hab hbc := by
    rw [scalar_le_iff] at hab hbc ⊢
    exact le_trans hab hbc
  ordered_left a b _ := (scalar_le_iff a a).mpr (le_refl a)
  ordered_right a b _ := (scalar_le_iff b b).mpr (le_refl b)
  le_total a b _ _ := by
    rw [scalar_le_iff, scalar_le_iff]
    exact le_total a b
  zero_ordered := (scalar_le_iff _ _).mpr (le_refl _)

/-! ## Bounds -/

theorem isOrdered (a : K) : Scalar.isOrdered a := (scalar_le_iff a a).mpr (le_refl a)

theorem scalar_max_eq (a b : K) : Scalar.max a b = max a b := by
  unfold Scalar.max
  simp only [scalar_lt_iff, if_pos (isOrdered a), max_def_lt]

theorem scalar_min_eq (a b : K) : Scalar.min a b = min a b := by
  unfold Scalar.min
  simp only [scalar_lt_iff, if_pos (isOrdered a), min_comm a b, min_def_lt]

theorem scalar_abs_eq (a : K) : Scalar.abs a = |a| := by
  unfold Scalar.abs
  simp only [scalar_lt_iff, scalar_neg_eq, scalar_ofNat_eq, Nat.cast_zero]
  split
  · next hneg => exact (abs_of_neg hneg).symm
  · next hnonneg => exact (abs_of_nonneg (not_lt.mp hnonneg)).symm

/-- What is held between two bounds keeps both. -/
theorem clampTo_mem {lo hi : K} (h : lo ≤ hi) (a : K) :
    lo ≤ Scalar.clampTo lo hi a ∧ Scalar.clampTo lo hi a ≤ hi := by
  unfold Scalar.clampTo
  simp only [scalar_lt_iff]
  split
  · exact ⟨le_refl lo, h⟩
  next hlo =>
  split
  · exact ⟨h, le_refl hi⟩
  · next hhi => exact ⟨not_lt.mp hlo, not_lt.mp hhi⟩

/-- What is held between two bounds loses nothing but what lies beyond the upper one. -/
theorem min_le_clampTo (lo hi a : K) : min hi a ≤ Scalar.clampTo lo hi a := by
  unfold Scalar.clampTo
  simp only [scalar_lt_iff]
  split
  · next hlo => exact le_trans (min_le_right hi a) hlo.le
  split
  · exact min_le_left hi a
  · exact min_le_right hi a

end ExactScalar

end RoadTraffic
