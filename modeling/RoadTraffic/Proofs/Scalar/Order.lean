import RoadTraffic.Scalar

/-!
# The order of scalars

`Scalar` itself has no laws. `OrderedScalar` states those that every number format in use keeps,
IEEE doubles as well as exact numbers: some values are ordered, all comparisons with another value
(a NaN) are false, and the ordered values form a linear preorder. No arithmetic law is among them,
so that what is proved from this class alone holds whatever the rounding is.
-/

namespace RoadTraffic

/-- A number format whose comparisons are a linear preorder on the ordered values and false on all
others. -/
class OrderedScalar (α : Type) [Scalar α] : Prop where
  lt_iff : ∀ a b : α, a < b ↔ a ≤ b ∧ ¬ b ≤ a
  le_trans : ∀ a b c : α, a ≤ b → b ≤ c → a ≤ c
  ordered_left : ∀ a b : α, a ≤ b → Scalar.isOrdered a
  ordered_right : ∀ a b : α, a ≤ b → Scalar.isOrdered b
  le_total : ∀ a b : α, Scalar.isOrdered a → Scalar.isOrdered b → a ≤ b ∨ b ≤ a
  zero_ordered : Scalar.isOrdered (0 : α)

namespace OrderedScalar

variable {α : Type} [Scalar α] [OrderedScalar α] {a b c : α}

theorem lt_irrefl (a : α) : ¬ a < a := by
  rw [lt_iff]
  exact fun h => h.2 h.1

theorem le_of_lt (h : a < b) : a ≤ b := ((lt_iff a b).mp h).1

theorem lt_of_lt_of_le (hab : a < b) (hbc : b ≤ c) : a < c := by
  obtain ⟨hab, hba⟩ := (lt_iff a b).mp hab
  exact (lt_iff a c).mpr ⟨le_trans a b c hab hbc, fun hca => hba (le_trans b c a hbc hca)⟩

theorem lt_trans (hab : a < b) (hbc : b < c) : a < c := lt_of_lt_of_le hab (le_of_lt hbc)

/-- Among ordered values, what is not below is above or equal. -/
theorem le_of_not_lt (ha : Scalar.isOrdered a) (hb : Scalar.isOrdered b) (h : ¬ b < a) :
    a ≤ b := by
  rcases le_total a b ha hb with hab | hba
  · exact hab
  · exact Classical.byContradiction fun hab => h ((lt_iff b a).mpr ⟨hba, hab⟩)

/-- Whatever a value at most zero is compared with, the smaller of the two is at most zero. "At most
zero" is told without `≤` here, so that zero keeps its sign. -/
theorem min_nonpos (b : α) (h : a = 0 ∨ a < 0) : Scalar.min a b = 0 ∨ Scalar.min a b < 0 := by
  have hord : Scalar.isOrdered a := by
    rcases h with rfl | hlt
    · exact zero_ordered
    · exact ordered_left a 0 (le_of_lt hlt)
  unfold Scalar.min
  by_cases hba : b < a
  · rw [if_pos hba]
    -- what is smaller still is below zero, whichever of the two the other value was
    rcases h with rfl | hlt
    · exact Or.inr hba
    · exact Or.inr (lt_trans hba hlt)
  · rw [if_neg hba, if_pos hord]
    exact h

/-- The smaller of two values is below every bound that one of them is below. -/
theorem min_le (h : a ≤ c ∨ b ≤ c) : Scalar.min a b ≤ c := by
  unfold Scalar.min
  by_cases hba : b < a
  · rw [if_pos hba]
    exact h.elim (le_trans b a c (le_of_lt hba)) id
  · rw [if_neg hba]
    by_cases ha : Scalar.isOrdered a
    · rw [if_pos ha]
      exact h.elim id fun hbc => le_trans a b c (le_of_not_lt ha (ordered_left b c hbc) hba) hbc
    · -- a value outside the order is below nothing, so that it is the other one
      rw [if_neg ha]
      exact h.elim (fun hac => absurd (ordered_left a c hac) ha) id

/-- Held at zero, a value at most zero becomes zero. -/
theorem max_zero (h : a = 0 ∨ a < 0) : Scalar.max a 0 = 0 := by
  unfold Scalar.max
  rcases h with rfl | hlt
  · rw [if_neg (lt_irrefl 0), if_pos zero_ordered]
  · rw [if_pos hlt]

end OrderedScalar

end RoadTraffic
