import Mathlib.Tactic.NormNum
import RoadTraffic.Proofs.Scalar.Exact
import RoadTraffic.Roads.Map
import RoadTraffic.Vehicle.Motion

/-!
# Geometry in exact arithmetic

What the distances, directions and curves of the road have in common with those of the plane once
nothing is rounded: distance and direction are symmetric, a curve begins where it should, and
numbers that are far apart have squares that are. Where roots are not rounded either, no detour is
shorter (`Vec3.distance_triangle`), and what has a direction at all has one of length one.
-/

namespace RoadTraffic

open ExactScalar

variable {K : Type} [Field K] [LinearOrder K] [IsStrictOrderedRing K] [Scalar K] [ExactScalar K]

namespace Vec3

theorem add_eq (a b : Vec3 K) : a + b = ⟨a.x + b.x, a.y + b.y, a.z + b.z⟩ := by
  rw [← scalar_add_eq, ← scalar_add_eq, ← scalar_add_eq]
  rfl

theorem sub_eq (a b : Vec3 K) : a - b = ⟨a.x - b.x, a.y - b.y, a.z - b.z⟩ := by
  rw [← scalar_sub_eq, ← scalar_sub_eq, ← scalar_sub_eq]
  rfl

theorem dot_eq (a b : Vec3 K) : a.dot b = a.x * b.x + a.y * b.y + a.z * b.z := by
  unfold dot
  simp only [scalar_add_eq, scalar_mul_eq]

theorem dot_comm (a b : Vec3 K) : a.dot b = b.dot a := by
  rw [dot_eq, dot_eq]
  ring

theorem lengthSquared_eq (a : Vec3 K) : a.lengthSquared = a.x * a.x + a.y * a.y + a.z * a.z :=
  dot_eq a a

theorem lengthSquared_nonneg (a : Vec3 K) : 0 ≤ a.lengthSquared := by
  rw [lengthSquared_eq]
  exact add_nonneg (add_nonneg (mul_self_nonneg _) (mul_self_nonneg _)) (mul_self_nonneg _)

theorem length_nonneg (a : Vec3 K) : 0 ≤ a.length :=
  le_sqrt 0 _ (le_refl 0) (by rw [mul_zero]; exact lengthSquared_nonneg a)

theorem distanceSquared_eq (a b : Vec3 K) :
    a.distanceSquared b =
      (b.x - a.x) * (b.x - a.x) + (b.y - a.y) * (b.y - a.y) + (b.z - a.z) * (b.z - a.z) := by
  unfold distanceSquared
  rw [sub_eq, lengthSquared_eq]

theorem distanceSquared_comm (a b : Vec3 K) : a.distanceSquared b = b.distanceSquared a := by
  rw [distanceSquared_eq, distanceSquared_eq]
  ring

theorem distance_comm (a b : Vec3 K) : a.distance b = b.distance a := by
  unfold distance
  rw [distanceSquared_comm]

theorem distance_nonneg (a b : Vec3 K) : 0 ≤ a.distance b := length_nonneg (b - a)

/-- Whoever compares squares compares distances. -/
theorem not_distance_lt {a b : Vec3 K} {d : K} (h : 0 ≤ d → d * d ≤ a.distanceSquared b) :
    ¬ a.distance b < d := by
  intro hlt
  -- what is above a distance is above zero, so that comparing its square says something
  have hd : 0 ≤ d := le_of_lt (lt_of_le_of_lt (distance_nonneg a b) hlt)
  exact absurd hlt (not_lt.mpr (le_sqrt d _ hd (h hd)))

/-- Whoever compares distances compares squares. Roots may be rounded up, but not down. -/
theorem distanceSquared_le {a b : Vec3 K} {d : K} (hd : 0 ≤ d) (h : a.distance b ≤ d) :
    a.distanceSquared b ≤ d * d := by
  by_contra hfar
  rw [not_le] at hfar
  -- a little more than the distance would have a square that is small enough
  obtain ⟨e, he, he_one, he_room⟩ : ∃ e : K, 0 < e ∧ e ≤ 1 ∧
      e * (d + d + 1) ≤ a.distanceSquared b - d * d := by
    have hpos : 0 < d + d + 1 := add_pos_of_nonneg_of_pos (add_nonneg hd hd) one_pos
    refine ⟨min 1 ((a.distanceSquared b - d * d) / (d + d + 1)),
      lt_min one_pos (div_pos (sub_pos.mpr hfar) hpos), min_le_left .., ?_⟩
    exact (le_div_iff₀ hpos).mp (min_le_right ..)
  have hsquare : (d + e) * (d + e) ≤ a.distanceSquared b := by
    have hee : e * e ≤ e := mul_le_of_le_one_right he.le he_one
    calc (d + e) * (d + e) = d * d + ((d + d) * e + e * e) := by ring
      _ ≤ d * d + e * (d + d + 1) := by linarith
      _ ≤ a.distanceSquared b := by linarith
  have hroot : d + e ≤ a.distance b := le_sqrt _ _ (by linarith) hsquare
  linarith

/-- A position that is raised by nothing stays where it is. -/
theorem add_raise_zero (a : Vec3 K) {height : K} (h : height = 0) :
    a + ⟨@OfNat.ofNat K 0 (Scalar.instOfNat 0), height, @OfNat.ofNat K 0 (Scalar.instOfNat 0)⟩ =
      a := by
  simp only [add_eq, scalar_ofNat_eq, Nat.cast_zero, h, add_zero]

theorem add_sub_self (a b : Vec3 K) : a + b - a = b := by
  simp only [sub_eq, add_eq, add_sub_cancel_left]

theorem leftward_eq (a : Vec3 K) : a.leftward = direction ⟨a.z, 0, -a.x⟩ := by
  unfold leftward
  rw [scalar_ofNat_eq, scalar_neg_eq, Nat.cast_zero]

theorem add_scale_zero (a : Vec3 K) (s : K) : a + (zero : Vec3 K).scale s = a := by
  unfold zero scale
  simp only [add_eq, scalar_mul_eq, scalar_ofNat_eq, Nat.cast_zero, zero_mul, add_zero]

theorem tiny_pos : (0 : K) < Scalar.tiny := by
  unfold Scalar.tiny
  rw [scalar_div_eq, scalar_ofNat_eq, scalar_ofNat_eq]
  positivity

theorem tiny_lt_one : Scalar.tiny < (1 : K) := by
  unfold Scalar.tiny
  rw [scalar_div_eq, scalar_ofNat_eq, scalar_ofNat_eq]
  norm_num

/-- Positions that are no distance apart are the same. -/
theorem eq_of_distanceSquared_le {a b : Vec3 K} (h : a.distanceSquared b ≤ 0) : a = b := by
  rw [distanceSquared_eq] at h
  have hx := mul_self_nonneg (b.x - a.x)
  have hy := mul_self_nonneg (b.y - a.y)
  have hz := mul_self_nonneg (b.z - a.z)
  have hzero : ∀ {c d : K}, (d - c) * (d - c) ≤ 0 → c = d := fun hcd =>
    (sub_eq_zero.mp (mul_self_eq_zero.mp (le_antisymm hcd (mul_self_nonneg _)))).symm
  cases a
  cases b
  rw [mk.injEq]
  exact ⟨hzero (by linarith), hzero (by linarith), hzero (by linarith)⟩

theorem distanceSquared_self (a : Vec3 K) : a.distanceSquared a = 0 := by
  rw [distanceSquared_eq]
  ring

/-- Who goes along a vector is away by its length, as often as the vector is stretched. -/
theorem distanceSquared_add_scale (a v : Vec3 K) (s : K) :
    a.distanceSquared (a + v.scale s) = s * s * v.lengthSquared := by
  unfold scale
  rw [distanceSquared_eq, lengthSquared_eq, add_eq]
  simp only [scalar_mul_eq]
  ring

/-- The square of a scalar product is at most the product of the squares. -/
theorem dot_mul_dot_le (a b : Vec3 K) :
    a.dot b * a.dot b ≤ a.lengthSquared * b.lengthSquared := by
  rw [dot_eq, lengthSquared_eq, lengthSquared_eq]
  have hxy := mul_self_nonneg (a.x * b.y - a.y * b.x)
  have hyz := mul_self_nonneg (a.y * b.z - a.z * b.y)
  have hzx := mul_self_nonneg (a.z * b.x - a.x * b.z)
  linarith

/-! ### Roots that are not rounded -/

section

variable [RootedScalar K]

theorem length_mul_self (a : Vec3 K) : a.length * a.length = a.lengthSquared :=
  RootedScalar.sqrt_mul_self _ (lengthSquared_nonneg a)

theorem distance_mul_self (a b : Vec3 K) :
    a.distance b * a.distance b = a.distanceSquared b :=
  length_mul_self (b - a)

theorem distance_eq {a b : Vec3 K} {d : K} (hd : 0 ≤ d) (h : a.distanceSquared b = d * d) :
    a.distance b = d :=
  (mul_self_inj (distance_nonneg a b) hd).mp ((distance_mul_self a b).trans h)

theorem distance_le {a b : Vec3 K} {d : K} (hd : 0 ≤ d) (h : a.distanceSquared b ≤ d * d) :
    a.distance b ≤ d :=
  (mul_self_le_mul_self_iff (distance_nonneg a b) hd).mpr ((distance_mul_self a b).trans_le h)

/-- Comparing squares and comparing distances is the same. -/
theorem distance_lt_iff {a b : Vec3 K} {d : K} (hd : 0 ≤ d) :
    a.distance b < d ↔ a.distanceSquared b < d * d := by
  rw [← distance_mul_self]
  exact mul_self_lt_mul_self_iff (distance_nonneg a b) hd

/-- No detour is shorter. -/
theorem distance_triangle (a b c : Vec3 K) : a.distance c ≤ a.distance b + b.distance c := by
  have hab := distance_nonneg a b
  have hbc := distance_nonneg b c
  have hdot : (b - a).dot (c - b) ≤ a.distance b * b.distance c := by
    refine le_of_sq_le_sq ?_ (mul_nonneg hab hbc)
    calc (b - a).dot (c - b) ^ 2 = (b - a).dot (c - b) * (b - a).dot (c - b) := pow_two _
      _ ≤ a.distanceSquared b * b.distanceSquared c := dot_mul_dot_le ..
      _ = (a.distance b * b.distance c) ^ 2 := by
        rw [← distance_mul_self, ← distance_mul_self]
        ring
  have hsum : a.distanceSquared c =
      a.distanceSquared b + b.distanceSquared c + ((b - a).dot (c - b) + (b - a).dot (c - b)) := by
    rw [distanceSquared_eq, distanceSquared_eq, distanceSquared_eq, dot_eq, sub_eq, sub_eq]
    ring
  refine distance_le (add_nonneg hab hbc) ?_
  calc a.distanceSquared c
      ≤ a.distance b * a.distance b + b.distance c * b.distance c +
          (a.distance b * b.distance c + a.distance b * b.distance c) := by
        rw [hsum, distance_mul_self, distance_mul_self]
        exact add_le_add_right (add_le_add hdot hdot) _
    _ = (a.distance b + b.distance c) * (a.distance b + b.distance c) := by ring

/-- What is within `r` of a place at the distance `w` is at that distance itself, give or take
`r`. -/
theorem distance_within {a b c : Vec3 K} {w r : K} (hplace : a.distance b = w)
    (hnear : c.distance b ≤ r) : w - r ≤ a.distance c ∧ a.distance c ≤ w + r := by
  have hfar := distance_triangle a c b
  have hclose := distance_triangle a b c
  rw [distance_comm b] at hclose
  exact ⟨by linarith, by linarith⟩

/-- A vector has a direction of length one, or none. -/
theorem direction_cases (a : Vec3 K) : a.direction = .zero ∨ a.direction.lengthSquared = 1 := by
  unfold direction
  dsimp only
  split
  · next htiny =>
    have hpos : 0 < a.length := lt_trans tiny_pos ((scalar_lt_iff _ _).mp htiny)
    refine Or.inr ?_
    rw [lengthSquared_eq]
    simp only [scalar_div_eq, div_mul_div_comm, ← add_div]
    rw [← lengthSquared_eq, ← length_mul_self, div_self (mul_pos hpos hpos).ne']
  · exact Or.inl rfl

/-- A vector of length one is its own direction. -/
theorem direction_of_unit {a : Vec3 K} (h : a.lengthSquared = 1) : a.direction = a := by
  have hlength : a.length = 1 := by
    refine (mul_self_inj (length_nonneg a) zero_le_one).mp ?_
    rw [length_mul_self, h, mul_one]
  unfold direction
  rw [hlength, if_pos ((scalar_lt_iff _ _).mpr tiny_lt_one)]
  simp only [scalar_div_eq, div_one]

/-- What has no length has no direction. -/
theorem direction_of_none {a : Vec3 K} (h : a.lengthSquared = 0) : a.direction = .zero := by
  have hlength : a.length = 0 := mul_self_eq_zero.mp ((length_mul_self a).trans h)
  unfold direction
  rw [hlength, if_neg]
  rw [scalar_lt_iff, not_lt]
  exact tiny_pos.le

end

end Vec3

/-- Two points see each other in the same direction or in different ones. -/
theorem RoadMap.sameDirection_comm (m : RoadMap K) (a b : PointId) :
    m.sameDirection a b = m.sameDirection b a := by
  unfold RoadMap.sameDirection
  rw [Vec3.dot_comm]

namespace Hermite

/-- A curve begins at its start. -/
theorem sample_zero (c : Hermite K) {t : K} (ht : t = 0) : (c.sample t).1 = c.start := by
  have hclamp : Scalar.clampTo (@OfNat.ofNat K 0 (Scalar.instOfNat 0))
      (@OfNat.ofNat K 1 (Scalar.instOfNat 1)) t = 0 := by
    unfold Scalar.clampTo
    simp only [scalar_lt_iff, scalar_ofNat_eq, ht]
    norm_num
  show c.position _ = c.start
  rw [hclamp]
  unfold position blend Vec3.scale
  simp only [Vec3.add_eq, scalar_add_eq, scalar_sub_eq, scalar_mul_eq, scalar_neg_eq,
    scalar_ofNat_eq]
  norm_num

end Hermite

/-- No share of a segment has been driven at its beginning. -/
theorem Vehicle.share_zero {a b : K} (ha : a = 0) : Vehicle.share a b = 0 := by
  unfold Vehicle.share Scalar.clampTo
  simp only [scalar_lt_iff, scalar_div_eq, scalar_ofNat_eq, ha]
  norm_num

end RoadTraffic
