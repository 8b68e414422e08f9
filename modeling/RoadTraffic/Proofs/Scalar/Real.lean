import Mathlib.Analysis.SpecialFunctions.Complex.Arg
import Mathlib.Analysis.SpecialFunctions.Log.Basic
import Mathlib.Analysis.SpecialFunctions.Trigonometric.Inverse
import RoadTraffic.Proofs.Scalar.Exact

/-!
# Real numbers as scalars

The exact scalar that is meant where distances are said to be exact: roots, angles and exponentials
are those of the real numbers, and nothing is rounded but by the functions that round. It does not
compute; what is to be run is run over the rational numbers.
-/

namespace RoadTraffic.Reals

noncomputable section

/-- The nearest integer; a half goes away from zero. -/
def round (a : ℝ) : ℝ := if a < 0 then -⌊-a + 1 / 2⌋ else ⌊a + 1 / 2⌋

/-- The remainder of the truncated quotient. -/
def rem (a b : ℝ) : ℝ := a - b * (if a / b < 0 then -⌊-(a / b)⌋ else ⌊a / b⌋)

instance : Scalar ℝ where
  add a b := a + b
  sub a b := a - b
  mul a b := a * b
  div a b := a / b
  neg a := -a
  lt a b := a < b
  le a b := a ≤ b
  decLt a b := Classical.propDecidable (a < b)
  decLe a b := Classical.propDecidable (a ≤ b)
  totalLe a b := @decide (a ≤ b) (Classical.propDecidable (a ≤ b))
  ofNat n := n
  infinity := 10 ^ 300
  pi := Real.pi
  sqrt := Real.sqrt
  sin := Real.sin
  cos := Real.cos
  acos := Real.arccos
  atan2 y x := Complex.arg ⟨x, y⟩
  exp := Real.exp
  log := Real.log
  floor a := ⌊a⌋
  round := round
  rem := rem
  toNat limit a := min limit ⌊a⌋₊
  nextBelow a := a
  single a := a

end

instance : ExactScalar ℝ where
  add_eq _ _ := rfl
  sub_eq _ _ := rfl
  mul_eq _ _ := rfl
  div_eq _ _ := rfl
  neg_eq _ := rfl
  lt_iff _ _ := Iff.rfl
  le_iff _ _ := Iff.rfl
  ofNat_eq _ := rfl
  le_sqrt _ _ _ hab := Real.le_sqrt_of_sq_le ((pow_two _).trans_le hab)

instance : SortedScalar ℝ where
  totalLe_iff _ _ := decide_eq_true_iff

instance : RootedScalar ℝ where
  sqrt_mul_self _ := Real.mul_self_sqrt

end RoadTraffic.Reals
