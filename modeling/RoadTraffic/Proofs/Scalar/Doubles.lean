import Mathlib.Data.Prod.Lex
import RoadTraffic.Proofs.Scalar.Order
import RoadTraffic.Scalar.Double

/-!
# Doubles in their order

A double is a number with a sign, digits and an exponent, or zero, infinite or no number at all
(`Double.parts`). Numbers are compared by sign, exponent and digits in this order, so their place
among all others is a triple of integers (`Double.rank`), and doubles keep the laws of
`OrderedScalar` because such triples are in a linear order.
-/

namespace RoadTraffic.Double

open Float.Model (UnpackedFloat)
open Float.Model.UnpackedFloat (Sign)

/-- The sign, the digits and the exponent of a double, or which special value it is. -/
def parts (x : Float) : UnpackedFloat := x.toModel.unpack

theorem parts_zero : parts (Float.ofNat 0) = .zero .positive := by
  unfold Float.ofNat
  rfl

theorem lt_iff_parts {x y : Float} : x < y ↔ (parts x).lt (parts y) = true := by
  change decide (x.toModel < y.toModel) = true ↔ _
  rw [decide_eq_true_iff]
  exact Iff.rfl

theorem le_iff_parts {x y : Float} : x ≤ y ↔ (parts x).le (parts y) = true := by
  change decide (x.toModel ≤ y.toModel) = true ↔ _
  rw [decide_eq_true_iff]
  exact Iff.rfl

/-- The place of a number among all others: by sign, then by exponent, then by digits. -/
def rank : UnpackedFloat → Option (Int ×ₗ Int ×ₗ Int)
  | .infinity .negative => some (toLex (-2, toLex (0, 0)))
  | .finite .negative m e _ => some (toLex (-1, toLex (-e, -m)))
  | .zero _ => some (toLex (0, toLex (0, 0)))
  | .finite .positive m e _ => some (toLex (1, toLex (e, m)))
  | .infinity .positive => some (toLex (2, toLex (0, 0)))
  | .notANumber => none

theorem compare_neg (e f : Int) : compare (-e) (-f) = (compare e f).swap := by
  rw [Int.compare_swap]
  rcases Int.lt_trichotomy e f with h | rfl | h
  · rw [Int.compare_eq_gt.mpr h, Int.compare_eq_gt.mpr (Int.neg_lt_neg h)]
  · rw [Int.compare_eq_eq.mpr rfl, Int.compare_eq_eq.mpr rfl]
  · rw [Int.compare_eq_lt.mpr h, Int.compare_eq_lt.mpr (Int.neg_lt_neg h)]

theorem compare_natCast (m n : Nat) : compare (m : Int) n = compare m n := by
  rcases Nat.lt_trichotomy m n with h | rfl | h
  · rw [Nat.compare_eq_lt.mpr h, Int.compare_eq_lt.mpr (Int.ofNat_lt.mpr h)]
  · rw [Nat.compare_eq_eq.mpr rfl, Int.compare_eq_eq.mpr rfl]
  · rw [Nat.compare_eq_gt.mpr h, Int.compare_eq_gt.mpr (Int.ofNat_lt.mpr h)]

/-- Numbers are compared by their ranks. -/
theorem compare_eq (u v : UnpackedFloat) :
    u.compare v = (rank u).bind fun a => (rank v).map fun b => compare a b := by
  cases u with
  | notANumber => rfl
  | infinity s =>
    cases s <;> cases v with
    | notANumber | zero => rfl
    | infinity s' | finite s' => cases s' <;> rfl
  | zero s =>
    cases v with
    | notANumber | zero => rfl
    | infinity s' | finite s' => cases s' <;> rfl
  | finite s m e h =>
    cases s with
    | negative =>
      cases v with
      | notANumber | zero => rfl
      | infinity s' => cases s' <;> rfl
      | finite s' n f h' =>
        cases s' with
        | positive => rfl
        | negative =>
          change _ = some ((compare (-e) (-f)).then (compare (-(m : Int)) (-(n : Int))))
          rw [compare_neg, compare_neg, compare_natCast, ← Ordering.swap_then]
          rfl
    | positive =>
      cases v with
      | notANumber | zero => rfl
      | infinity s' => cases s' <;> rfl
      | finite s' n f h' =>
        cases s' with
        | negative => rfl
        | positive =>
          change _ = some ((compare e f).then (compare (m : Int) n))
          rw [compare_natCast]
          rfl

theorem le_iff_rank {x y : Float} :
    x ≤ y ↔ ∃ a ∈ rank (parts x), ∃ b ∈ rank (parts y), a ≤ b := by
  rw [le_iff_parts, UnpackedFloat.le, compare_eq]
  cases rank (parts x) with
  | none => simp
  | some a =>
    cases rank (parts y) with
    | none => simp
    | some b => simp [Ordering.isLE_iff_ne_gt, compare_le_iff_le]

theorem lt_iff_rank {x y : Float} :
    x < y ↔ ∃ a ∈ rank (parts x), ∃ b ∈ rank (parts y), a < b := by
  rw [lt_iff_parts, UnpackedFloat.lt, compare_eq]
  cases rank (parts x) with
  | none => simp
  | some a =>
    cases rank (parts y) with
    | none => simp
    | some b => simp [compare_lt_iff_lt]

theorem isOrdered_iff {x : Float} : Scalar.isOrdered x ↔ ∃ a, a ∈ rank (parts x) := by
  constructor
  · intro h
    obtain ⟨a, ha, -⟩ := le_iff_rank.mp h
    exact ⟨a, ha⟩
  · rintro ⟨a, ha⟩
    exact le_iff_rank.mpr ⟨a, ha, a, ha, le_refl a⟩

/-- Doubles that are numbers are in a linear order, up to the sign of zero. -/
instance : OrderedScalar Float where
  lt_iff x y := by
    change x < y ↔ x ≤ y ∧ ¬ y ≤ x
    rw [lt_iff_rank, le_iff_rank, le_iff_rank]
    constructor
    · rintro ⟨a, ha, b, hb, hab⟩
      refine ⟨⟨a, ha, b, hb, le_of_lt hab⟩, ?_⟩
      rintro ⟨b', hb', a', ha', hba⟩
      rw [Option.mem_unique hb' hb, Option.mem_unique ha' ha] at hba
      exact absurd hab (not_lt_of_ge hba)
    · rintro ⟨⟨a, ha, b, hb, -⟩, hnot⟩
      exact ⟨a, ha, b, hb, lt_of_not_ge fun hba => hnot ⟨b, hb, a, ha, hba⟩⟩
  le_trans x y z hxy hyz := by
    obtain ⟨a, ha, b, hb, hab⟩ := le_iff_rank.mp hxy
    obtain ⟨b', hb', c, hc, hbc⟩ := le_iff_rank.mp hyz
    rw [Option.mem_unique hb' hb] at hbc
    exact le_iff_rank.mpr ⟨a, ha, c, hc, le_trans hab hbc⟩
  ordered_left x y h := by
    obtain ⟨a, ha, -⟩ := le_iff_rank.mp h
    exact isOrdered_iff.mpr ⟨a, ha⟩
  ordered_right x y h := by
    obtain ⟨-, -, b, hb, -⟩ := le_iff_rank.mp h
    exact isOrdered_iff.mpr ⟨b, hb⟩
  le_total x y hx hy := by
    obtain ⟨a, ha⟩ := isOrdered_iff.mp hx
    obtain ⟨b, hb⟩ := isOrdered_iff.mp hy
    rcases le_total a b with hab | hba
    · exact .inl (le_iff_rank.mpr ⟨a, ha, b, hb, hab⟩)
    · exact .inr (le_iff_rank.mpr ⟨b, hb, a, ha, hba⟩)
  zero_ordered := isOrdered_iff.mpr ⟨toLex (0, toLex (0, 0)), by
    rw [show (0 : Float) = Float.ofNat 0 from rfl, parts_zero]
    rfl⟩

end RoadTraffic.Double
