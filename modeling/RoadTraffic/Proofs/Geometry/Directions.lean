import RoadTraffic.Proofs.Geometry.Exact
import RoadTraffic.Proofs.Scalar.Magnitude

/-!
# Directions of travel

Two points are on the same way if their directions have a positive scalar product. A point without a
direction is on no way, not even on that of its own. Any other one should be: `DirectedScalar` says
so of the directions in a number format. It takes little: that a direction is long enough for its
square not to vanish, and that nothing is made of the products with zero.

Doubles have both, however they round and however long the vectors are: the longest part of a vector
is about as long as the whole, so that it is not small once it is divided by the length.
-/

namespace RoadTraffic

/-- A number format in which what has the same direction as anything has the same direction as
itself. -/
class DirectedScalar (α : Type) [Scalar α] : Prop where
  direction_dot_self : ∀ a b : Vec3 α, 0 < a.direction.dot b → 0 < a.direction.dot a.direction
  zero_dot : ∀ b : Vec3 α, ¬ 0 < Vec3.zero.dot b

namespace RoadMap

variable {α : Type} [Scalar α] {m : RoadMap α}

theorem forward_cases (m : RoadMap α) (p : PointId) :
    (∃ v : Vec3 α, m.forward p = v.direction) ∨ m.forward p = .zero := by
  unfold forward
  dsimp only
  split
  · exact .inl ⟨_, rfl⟩
  · exact .inl ⟨_, rfl⟩
  · exact .inr rfl

/-- A point on the same way as another one is on its own way. -/
theorem sameDirection_self [DirectedScalar α] {p q : PointId} (h : m.sameDirection p q = true) :
    m.sameDirection p p = true := by
  unfold sameDirection at h ⊢
  rw [decide_eq_true_eq] at h ⊢
  rcases m.forward_cases p with ⟨v, hv⟩ | hv
  · rw [hv] at h ⊢
    exact DirectedScalar.direction_dot_self v _ h
  · rw [hv] at h
    exact absurd h (DirectedScalar.zero_dot _)

end RoadMap

namespace ExactScalar

variable {K : Type} [Field K] [LinearOrder K] [IsStrictOrderedRing K] [Scalar K] [ExactScalar K]

/-- Without rounding every vector but zero has a direction. -/
theorem dot_self_pos {a b : Vec3 K} (h : 0 < a.dot b) : 0 < a.dot a := by
  rw [Vec3.dot_eq] at h ⊢
  have hx := mul_self_nonneg a.x
  have hy := mul_self_nonneg a.y
  have hz := mul_self_nonneg a.z
  refine lt_of_le_of_ne (add_nonneg (add_nonneg hx hy) hz) fun hzero => ?_
  have hax : a.x = 0 := mul_self_eq_zero.mp (by linarith)
  have hay : a.y = 0 := mul_self_eq_zero.mp (by linarith)
  have haz : a.z = 0 := mul_self_eq_zero.mp (by linarith)
  rw [hax, hay, haz, zero_mul, zero_mul, zero_mul, add_zero, add_zero] at h
  exact lt_irrefl 0 h

instance : DirectedScalar K where
  direction_dot_self a b h := by
    rw [scalar_lt_iff, scalar_ofNat_eq, Nat.cast_zero] at h ⊢
    exact dot_self_pos h
  zero_dot b := by
    rw [scalar_lt_iff, scalar_ofNat_eq, Nat.cast_zero]
    intro h
    have hself := dot_self_pos h
    unfold Vec3.zero at hself
    rw [Vec3.dot_eq] at hself
    simp only [scalar_ofNat_eq, Nat.cast_zero, mul_zero, add_zero] at hself
    exact lt_irrefl 0 hself

end ExactScalar

namespace Double

open Float.Model (totalExponent)
open Float.Model.UnpackedFloat (Sign)

variable {a b : Vec3 Float} {x y z : Float}

theorem dot_eq (a b : Vec3 Float) : a.dot b = a.x * b.x + a.y * b.y + a.z * b.z := rfl

theorem length_eq (a : Vec3 Float) :
    a.length = (a.x * a.x + a.y * a.y + a.z * a.z).sqrt := rfl

theorem zero_eq : (Vec3.zero : Vec3 Float) = ⟨Float.ofNat 0, Float.ofNat 0, Float.ofNat 0⟩ := rfl

theorem direction_cases (a : Vec3 Float) :
    Scalar.tiny < a.length ∧ a.direction = ⟨a.x / a.length, a.y / a.length, a.z / a.length⟩ ∨
      a.direction = .zero := by
  unfold Vec3.direction
  dsimp only
  split
  next h => exact .inl ⟨h, rfl⟩
  next => exact .inr rfl

theorem numbers_of_dot (h : Float.ofNat 0 < Vec3.dot ⟨x, y, z⟩ b) :
    parts x ≠ .notANumber ∧ parts y ≠ .notANumber ∧ parts z ≠ .notANumber := by
  have hsum : parts (x * b.x + y * b.y + z * b.z) ≠ .notANumber := fun hnan => by
    have hup := (zero_lt_iff.mp h).1
    rw [dot_eq, hnan] at hup
    exact hup
  refine ⟨fun hx => hsum ?_, fun hy => hsum ?_, fun hz => hsum ?_⟩
  · exact parts_add_notANumber (.inl (parts_add_notANumber (.inl (parts_mul_notANumber hx _))))
  · exact parts_add_notANumber (.inl (parts_add_notANumber (.inr (parts_mul_notANumber hy _))))
  · exact parts_add_notANumber (.inr (parts_mul_notANumber hz _))

theorem not_pos_of_vanishes (hx : Vanishes (parts x)) (hy : Vanishes (parts y))
    (hz : Vanishes (parts z)) (b : Vec3 Float) : ¬ Float.ofNat 0 < Vec3.dot ⟨x, y, z⟩ b := fun h =>
  (zero_lt_iff.mp h).2 (((hx.mul b.x).add (hy.mul b.y)).add (hz.mul b.z))

/-- The square of a vector is positive if one of its parts is not too small. -/
theorem dot_self_pos {k : Int} (hmin : -536 ≤ k) (hx : parts x ≠ .notANumber)
    (hy : parts y ≠ .notANumber) (hz : parts z ≠ .notANumber)
    (h : Reaches k (parts x) ∨ Reaches k (parts y) ∨ Reaches k (parts z)) :
    Float.ofNat 0 < Vec3.dot ⟨x, y, z⟩ ⟨x, y, z⟩ := by
  obtain ⟨hxy, hreach⟩ := reaches_add (upward_square hx) (upward_square hy)
  obtain ⟨hsum, hlast⟩ := reaches_add hxy (upward_square hz)
  have hk : -1073 ≤ 2 * k - 1 := by omega
  refine zero_lt_iff.mpr ⟨hsum, (hlast (2 * k - 1) hk ?_).not_vanishes⟩
  rcases h with h | h | h
  · exact .inl (hreach _ hk (.inl (reaches_square h hk)))
  · exact .inl (hreach _ hk (.inr (reaches_square h hk)))
  · exact .inr (reaches_square h hk)

/-- Of a vector that is not too short one part is about as long as the whole. -/
theorem reaches_of_length {s : Sign} {m : Nat} {e : Int} {h : 0 < m}
    (ha : parts a.length = .finite s m e h) (hmin : -29 ≤ totalExponent m e) :
    Reaches (totalExponent m e - 4) (parts a.x) ∨ Reaches (totalExponent m e - 4) (parts a.y) ∨
      Reaches (totalExponent m e - 4) (parts a.z) := by
  rw [length_eq] at ha
  obtain ⟨hsquare, hmax⟩ := of_parts_sqrt ha (by omega)
  have hparts : ∀ {x : Float}, Reaches (2 * totalExponent m e - 7) (parts (x * x)) →
      Reaches (totalExponent m e - 4) (parts x) := fun hx =>
    of_reaches_square (hx.mono (by omega)) (by omega) (by omega)
  have hsum : Reaches (2 * totalExponent m e - 5 + 2) (parts (a.x * a.x + a.y * a.y + a.z * a.z)) :=
    hsquare.mono (by omega)
  rcases of_reaches_add hsum (by omega) (by omega) with hxy | hz
  · have hxy : Reaches (2 * totalExponent m e - 7 + 2) (parts (a.x * a.x + a.y * a.y)) :=
      hxy.mono (by omega)
    rcases of_reaches_add hxy (by omega) (by omega) with hx | hy
    · exact .inl (hparts hx)
    · exact .inr (.inl (hparts hy))
  · exact .inr (.inr (hparts (hz.mono (by omega))))

theorem not_pos_zero (b : Vec3 Float) : ¬ Float.ofNat 0 < Vec3.zero.dot b := by
  have hzero : Vanishes (parts (Float.ofNat 0)) := by
    rw [parts_zero]
    exact trivial
  rw [zero_eq]
  exact not_pos_of_vanishes hzero hzero hzero b

/-- A direction of doubles has a positive product with something only if it has one with itself. -/
theorem direction_dot_self (h : Float.ofNat 0 < a.direction.dot b) :
    Float.ofNat 0 < a.direction.dot a.direction := by
  rcases direction_cases a with ⟨hlong, hdirection⟩ | hzero
  · rw [hdirection] at h ⊢
    obtain ⟨hx, hy, hz⟩ := numbers_of_dot h
    rcases parts_of_tiny_lt hlong with hinfinite | ⟨m, e, hm, hlength, hmin⟩
    · have hvanish := fun x => vanishes_div x hinfinite
      exact absurd h (not_pos_of_vanishes (hvanish a.x) (hvanish a.y) (hvanish a.z) b)
    · have hdiv : ∀ {x : Float}, Reaches (totalExponent m e - 4) (parts x) →
          Reaches (-4) (parts (x / a.length)) := fun hx =>
        reaches_div hlength hx (by decide)
      exact dot_self_pos (by decide) hx hy hz
        ((reaches_of_length hlength hmin).imp hdiv (Or.imp hdiv hdiv))
  · rw [hzero] at h
    exact absurd h (not_pos_zero b)

instance : DirectedScalar Float where
  direction_dot_self _ _ h := direction_dot_self h
  zero_dot b := not_pos_zero b

end Double

end RoadTraffic
