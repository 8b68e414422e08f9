import RoadTraffic.Interval

/-!
# Bounds of draws

A draw from an interval of numbers with its ends in order lies between them, whatever the stream of
random words is, and also when a draw by rejection gives up.
-/

namespace RoadTraffic

variable {ρ : Type} [RandomSource ρ]

namespace RandomSource

omit [RandomSource ρ] in
/-- What holds of all that an attempt gives, and of the fallback, holds of what the repeated attempt
gives. -/
theorem retry_spec {β : Type} {P : β → Prop} {fallback : β} {attempt : ρ → Option β × ρ}
    (hfallback : P fallback) (hattempt : ∀ r b, (attempt r).1 = some b → P b) (n : Nat) (r : ρ) :
    P (retry fallback attempt n r).1 := by
  induction n generalizing r with
  | zero => exact hfallback
  | succ n ih =>
    unfold retry
    split
    · next b rest heq => exact hattempt r b (congrArg Prod.fst heq)
    · next rest heq => exact ih rest

theorem highHalf_lt {range zone word n : Nat} (hrange : 0 < range) (hword : word < Nat.pow 2 64)
    (h : highHalf 64 range zone word = some n) : n < range := by
  unfold highHalf at h
  dsimp only at h
  split at h
  · cases h
    rw [Nat.div_lt_iff_lt_mul (Nat.two_pow_pos 64)]
    rw [Nat.mul_comm]
    exact Nat.mul_lt_mul_of_pos_left hword hrange
  · cases h

theorem scaledLong_lt {range zone : Nat} (hrange : 0 < range) (r : ρ) :
    (scaledLong range zone r).1 < range := by
  refine retry_spec (P := (· < range)) hrange (fun r n h => ?_) _ _
  exact highHalf_lt hrange (UInt64.toNat_lt _) h

theorem between_le {low high : Nat} (h : low ≤ high) (hhigh : high < Nat.pow 2 64) (r : ρ) :
    low ≤ (between low high r).1 ∧ (between low high r).1 ≤ high := by
  unfold between
  dsimp only
  split
  · next hrange =>
    -- all words are in the range, so that nothing is rejected
    have hword : (longWord r).1.toNat < Nat.pow 2 64 := UInt64.toNat_lt _
    exact ⟨by omega, by omega⟩
  · have hlt : (scaledLong (high - low + 1)
        ((high - low + 1) * Nat.pow 2 (63 - (high - low + 1).log2) - 1) r).1 < high - low + 1 :=
      scaledLong_lt (by omega) r
    exact ⟨by omega, by omega⟩

end RandomSource

namespace Interval

/-- A draw from an interval lies in it. -/
theorem draw_mem {i : Interval Nat} (h : i.min ≤ i.max) (hmax : i.max < Nat.pow 2 64) (r : ρ) :
    i.min ≤ (i.draw r).1 ∧ (i.draw r).1 ≤ i.max := by
  unfold draw
  split
  · exact RandomSource.between_le h hmax r
  · exact ⟨Nat.le_refl _, h⟩

end Interval

end RoadTraffic
