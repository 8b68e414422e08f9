import Mathlib.Tactic.NormNum
import RoadTraffic.Proofs.Random.Tape
import RoadTraffic.Proofs.Scalar.Exact
import RoadTraffic.Random.Normal

/-!
# Normal draws in exact arithmetic

A normal draw never fails where nothing is infinite. How far it deviates is not bounded by anything
but the tape. The lowest layer of the ziggurat lies under the curve wherever it does not reach
beyond the next one, and every place of it is taken by a word (`Tape.exists_standardNormal`). So
there are tapes whose draw is the mean itself, and others whose draw lies two deviations below it.
-/

namespace RoadTraffic

open ExactScalar

variable {K : Type} [Field K] [LinearOrder K] [IsStrictOrderedRing K] [Scalar K] [ExactScalar K]

/-- Nothing is infinite in exact arithmetic. -/
theorem scalar_isFinite (a : K) : Scalar.isFinite a := isOrdered _

namespace Ziggurat

theorem decode_eq {bits : UInt64} {significand divisor : Nat} (hbits : bits ≠ 0)
    (hsignificand : bits.toNat % Nat.pow 2 52 + Nat.pow 2 52 = significand)
    (hdivisor : Nat.pow 2 (1075 - bits.toNat / Nat.pow 2 52) = divisor) :
    (decode bits : K) = significand / divisor := by
  unfold decode
  rw [if_neg hbits]
  dsimp only
  rw [hsignificand, hdivisor, scalar_div_eq, ExactScalar.ofNat_eq, ExactScalar.ofNat_eq]

theorem edge_zero : (edge 0 : K) = (8806244044653720 : Nat) / (2251799813685248 : Nat) := by
  have hbits : edges.getD 0 0 = 0x400f493b78164498 := by decide +kernel
  unfold edge
  rw [hbits]
  exact decode_eq (by decide) (by decide) (by decide)

theorem edge_one : (edge 1 : K) = (8228420786433331 : Nat) / (2251799813685248 : Nat) := by
  have hbits : edges.getD 1 0 = 0x400d3bb48209ad33 := by decide +kernel
  unfold edge
  rw [hbits]
  exact decode_eq (by decide) (by decide) (by decide)

end Ziggurat

namespace RandomSource

variable {ρ : Type} [RandomSource ρ]

theorem normal_eq (mean deviation : K) (r : ρ) :
    normal mean deviation r =
      some (mean + deviation * (standardNormal r).1, (standardNormal (α := K) r).2) := by
  unfold normal
  rw [if_pos (scalar_isFinite deviation), ← scalar_mul_eq, ← scalar_add_eq]

/-- The word of a place in the lowest layer. Places are counted from the left end. -/
def lowestWord (place : Nat) : UInt64 := UInt64.ofNat (place * Nat.pow 2 12)

theorem lowestWord_layer (place : Nat) : (lowestWord place &&& 255).toNat = 0 := by
  unfold lowestWord
  rw [UInt64.toNat_and, UInt64.toNat_ofNat']
  show place * 2 ^ 12 % 2 ^ 64 &&& (2 ^ 8 - 1) = 0
  rw [Nat.and_two_pow_sub_one_eq_mod]
  omega

theorem lowestWord_place {place : Nat} (h : place < Nat.pow 2 52) :
    (lowestWord place >>> 12).toNat = place := by
  have hsmall : place < 2 ^ 52 := h
  unfold lowestWord
  rw [UInt64.toNat_shiftRight, UInt64.toNat_ofNat']
  show (place * 2 ^ 12 % 2 ^ 64) >>> 12 = place
  rw [Nat.shiftRight_eq_div_pow]
  omega

/-- How far out a place in the lowest layer lies. -/
def lowest (place : Nat) : K :=
  ((place : K) / (Nat.pow 2 51 : Nat) - (1 : Nat)) * Ziggurat.edge 0

omit [ExactScalar K] in
/-- A quarter of the way through the layer lies three quarters of the way from its middle to its
left end. -/
theorem lowest_left : (lowest (Nat.pow 2 49) : K) = -((3 : Nat) / (4 : Nat) * Ziggurat.edge 0) := by
  have hplace : Nat.pow 2 49 = 562949953421312 := by decide
  have hends : Nat.pow 2 51 = 2251799813685248 := by decide
  unfold lowest
  rw [hplace, hends]
  norm_num

omit [ExactScalar K] in
theorem lowest_middle : (lowest (Nat.pow 2 51) : K) = 0 := by
  have hends : Nat.pow 2 51 = 2251799813685248 := by decide
  unfold lowest
  rw [hends]
  norm_num

/-- A word of the lowest layer whose place is within the next layer is a draw at once. -/
theorem attemptNormal_lowest {place : Nat} {r rest : ρ} (hplace : place < Nat.pow 2 52)
    (hinside : |(lowest place : K)| < Ziggurat.edge 1)
    (hword : longWord r = (lowestWord place, rest)) :
    attemptNormal r = (some (lowest place : K), rest) := by
  have hdraw : ((place : K) / (Nat.pow 2 51 : Nat) - (1 : Nat)) * Ziggurat.edge 0 =
      lowest place := rfl
  unfold attemptNormal
  rw [hword]
  dsimp only
  rw [lowestWord_layer, lowestWord_place hplace, scalar_mul_eq, scalar_sub_eq, scalar_div_eq,
    ExactScalar.ofNat_eq, ExactScalar.ofNat_eq, scalar_ofNat_eq, hdraw, scalar_abs_eq,
    if_pos ((scalar_lt_iff _ _).mpr hinside)]

end RandomSource

namespace Tape

variable {seeds : UInt64 → Nat → UInt32}

/-- Every number of the lowest layer that is within the next one is drawn from some tape. -/
theorem exists_standardNormal {place : Nat} (hplace : place < Nat.pow 2 52)
    (hinside : |(RandomSource.lowest place : K)| < Ziggurat.edge 1) :
    ∃ t : Tape seeds, (RandomSource.standardNormal t).1 = (RandomSource.lowest place : K) := by
  obtain ⟨t, ht⟩ : ∃ t : Tape seeds, (RandomSource.longWord t).1 = RandomSource.lowestWord place :=
    exists_longWord _
  refine ⟨t, ?_⟩
  unfold RandomSource.standardNormal
  rw [show RandomSource.attemptLimit = 1023 + 1 from rfl, RandomSource.retry,
    RandomSource.attemptNormal_lowest hplace hinside (Prod.ext ht rfl)]

/-- There is a tape whose standard normal number is below minus two. -/
theorem exists_standardNormal_le :
    ∃ t : Tape seeds, (RandomSource.standardNormal t).1 ≤ -((2 : Nat) : K) := by
  have hinside : |(RandomSource.lowest (Nat.pow 2 49) : K)| < Ziggurat.edge 1 := by
    rw [RandomSource.lowest_left, abs_neg, Ziggurat.edge_zero, Ziggurat.edge_one,
      abs_of_nonneg (by positivity)]
    norm_num
  obtain ⟨t, ht⟩ : ∃ t : Tape seeds, _ := exists_standardNormal (by decide) hinside
  refine ⟨t, ?_⟩
  rw [ht, RandomSource.lowest_left, Ziggurat.edge_zero]
  norm_num

/-- There is a tape whose standard normal number is zero. -/
theorem exists_standardNormal_zero :
    ∃ t : Tape seeds, (RandomSource.standardNormal t).1 = (0 : K) := by
  have hinside : |(RandomSource.lowest (Nat.pow 2 51) : K)| < Ziggurat.edge 1 := by
    rw [RandomSource.lowest_middle, abs_zero, Ziggurat.edge_one]
    positivity
  obtain ⟨t, ht⟩ : ∃ t : Tape seeds, _ := exists_standardNormal (by decide) hinside
  exact ⟨t, ht.trans RandomSource.lowest_middle⟩

end Tape

end RoadTraffic
