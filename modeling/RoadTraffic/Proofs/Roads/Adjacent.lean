import RoadTraffic.Proofs.Roads.Detection
import RoadTraffic.Proofs.Scalar.Real

/-!
# Adjacent lanes are a lane width apart

Lanes are looked for at the places a lane width to the left and to the right of a point, and what is
found there is off by the detection radius at most. By the triangle inequality a lane link that is
found so leads as far as a lane is wide, give or take the radius (`LaneDetector.look_joins`), and
the links of all points are found in this way (`LaneDetector.detect_joins`).

There is an exception. A lane that leads straight up has no left side, and neither has one whose
next point is in the same place. Both sides of such a point are looked for where the point itself
is, and what is found there, if it is another point, is no distance away at all
(`LaneDetector.detect_coincident`).
-/

namespace RoadTraffic

/-! ## Two lanes -/

/-- The points of two lanes that begin at `a` and `b` and lead along `step`. -/
def twoLanePoints {α : Type} [Scalar α] (a b step : Vec3 α) : Array (RoadPoint α) :=
  #[{ RoadPoint.unlinked ⟨0⟩ a with next := some ⟨1⟩, length := step.length },
    { RoadPoint.unlinked ⟨1⟩ (a + step) with previous := some ⟨0⟩ },
    { RoadPoint.unlinked ⟨2⟩ b with next := some ⟨3⟩, length := step.length },
    { RoadPoint.unlinked ⟨3⟩ (b + step) with previous := some ⟨2⟩ }]

/-- The road of the two lanes. -/
def twoLanes {α : Type} [Scalar α] (a b step : Vec3 α) : RoadMap α where
  points := twoLanePoints a b step
  junctions := #[]
  splines := []
  tree := .ofSites ((twoLanePoints a b step).toList.map fun p => (p.position, p.id))

theorem twoLanes_accepted {α : Type} [Scalar α] (a b step : Vec3 α) :
    RoadMap.ofParts (twoLanePoints a b step) #[] [] = .ok (twoLanes a b step) :=
  RoadMap.ofParts_eq_ok.mpr ⟨rfl, rfl⟩

/-- Where the lanes begin, there is the first point of one of them, unless one ends there. -/
theorem twoLanes_begin {α : Type} [Scalar α] {a b step position : Vec3 α} {id : PointId}
    (hid : id.index < (twoLanes a b step).points.size)
    (h : ((twoLanes a b step).point id).position = position) (ha : a + step ≠ position)
    (hb : b + step ≠ position) : (id = ⟨0⟩ ∧ a = position) ∨ (id = ⟨2⟩ ∧ b = position) := by
  obtain ⟨i⟩ := id
  match i, hid with
  | 0, _ => exact Or.inl ⟨rfl, h⟩
  | 1, _ => exact absurd h ha
  | 2, _ => exact Or.inr ⟨rfl, h⟩
  | 3, _ => exact absurd h hb

section

variable {K : Type} [Field K] [LinearOrder K] [IsStrictOrderedRing K] [Scalar K] [ExactScalar K]
  [RootedScalar K] {a b step : Vec3 K}

/-- Both lanes lead along a step of length one. -/
theorem twoLanes_forward (hstep : step.lengthSquared = 1) :
    (twoLanes a b step).forward ⟨0⟩ = step ∧ (twoLanes a b step).forward ⟨2⟩ = step := by
  have halong : ∀ a : Vec3 K, (a + step - a).direction = step := by
    intro a
    rw [Vec3.add_sub_self, Vec3.direction_of_unit hstep]
  exact ⟨halong a, halong b⟩

/-- The two lanes travel the same way. -/
theorem twoLanes_sameDirection (hstep : step.lengthSquared = 1) :
    (twoLanes a b step).sameDirection ⟨0⟩ ⟨2⟩ = true := by
  unfold RoadMap.sameDirection
  rw [(twoLanes_forward hstep).1, (twoLanes_forward hstep).2, decide_eq_true_eq,
    ExactScalar.scalar_lt_iff, ExactScalar.scalar_ofNat_eq, Nat.cast_zero]
  exact zero_lt_one.trans_eq hstep.symm

end

/-! ## The lanes that are found -/

namespace LaneDetector

section

variable {K : Type} [Field K] [LinearOrder K] [IsStrictOrderedRing K] [Scalar K] [ExactScalar K]
  {w r : K} {twoWay : Bool} {d : LaneDetector K}

open ExactScalar

/-- A detector is made if the radius is above zero and lanes are wider than the radius, by a
margin. -/
theorem make_eq_ok : make w r twoWay = .ok d ↔
    0 < r ∧ Settings.minWidthFactor * r ≤ w ∧ d = ⟨w, r, twoWay⟩ := by
  unfold make
  simp only [scalar_le_iff, scalar_lt_iff, scalar_mul_eq, scalar_ofNat_eq, Nat.cast_zero]
  split
  · next hr => exact ⟨nofun, fun h => absurd hr (not_le.mpr h.1)⟩
  next hr =>
  split
  · next hw => exact ⟨nofun, fun h => absurd hw (not_lt.mpr h.2.1)⟩
  next hw =>
  constructor
  · intro h
    exact ⟨not_le.mp hr, not_lt.mp hw, (Except.ok.inj h).symm⟩
  · rintro ⟨-, -, rfl⟩
    rfl

/-- What a lane link says of its ends. -/
structure Joins (d : LaneDetector K) (m : RoadMap K) (p q : PointId) : Prop where
  distinct : p ≠ q
  sameWay : m.sameDirection p q = true ∨ d.twoWay = true
  apart : (m.forward p).leftward ≠ .zero →
    d.laneWidth - d.radius ≤ m.distance p q ∧ m.distance p q ≤ d.laneWidth + d.radius
  coincident : (m.forward p).leftward = .zero → (m.point q).position = (m.point p).position

variable [SortedScalar K] {points : Array (RoadPoint K)} {junctions : Array (Junction K)}
  {splines : List Spline} {m : RoadMap K} {p q : PointId}

/-- A lane beside a point is another point of the map, within the radius of the place where it was
looked for, and no point is nearer to this place. -/
theorem look_spec (hm : RoadMap.ofParts points junctions splines = .ok m) {p : RoadPoint K}
    {offset : K} (h : d.look m p offset = .lane q) :
    q.index < m.points.size ∧ q ≠ p.id ∧ (m.sameDirection p.id q = true ∨ d.twoWay = true) ∧
      (m.point q).position.distanceSquared (placeBeside m p offset) ≤ d.radius * d.radius ∧
      ∀ p' : PointId, p'.index < m.points.size →
        (m.point q).position.distanceSquared (placeBeside m p offset) ≤
          (m.point p').position.distanceSquared (placeBeside m p offset) := by
  obtain ⟨e, hnearest, hdistinct, hnear, hway⟩ := of_look h
  obtain ⟨id, hid, hfound, hleast⟩ := RoadMap.nearest?_spec hm (placeBeside m p offset)
  rw [hfound, Option.some.injEq, Prod.mk.injEq] at hnearest
  obtain ⟨rfl, rfl⟩ := hnearest
  rw [scalar_lt_iff, scalar_mul_eq, not_lt] at hnear
  exact ⟨hid, hdistinct, hway, hnear, hleast⟩

/-- Where there is a point, one is found, whoever looks there. -/
theorem look_at (hm : RoadMap.ofParts points junctions splines = .ok m)
    (hq : q.index < m.points.size) :
    ∃ id : PointId, id.index < m.points.size ∧ (m.point id).position = (m.point q).position ∧
      ∀ {p : PointId} {offset : K}, p.index < m.points.size →
        placeBeside m (m.point p) offset = (m.point q).position → id ≠ p →
        m.sameDirection p id = true → d.look m (m.point p) offset = .lane id := by
  obtain ⟨id, hid, hfound, hleast⟩ := RoadMap.nearest?_spec hm (m.point q).position
  have hself := hleast q hq
  rw [Vec3.distanceSquared_self] at hself
  refine ⟨id, hid, Vec3.eq_of_distanceSquared_le hself, fun {p _} hp hplace hne hway => ?_⟩
  have hpoint : (m.point p).id = p := (RoadMap.validated_of_ofParts hm).wellFormed.id hp
  unfold look
  rw [hplace, hfound, hpoint]
  dsimp only
  rw [hway, Bool.true_or, if_pos rfl, if_neg]
  rw [not_or, scalar_lt_iff, scalar_mul_eq, not_lt]
  exact ⟨hne, le_trans hself (mul_self_nonneg _)⟩

variable [RootedScalar K]

/-- What is found a lane width away from a point is an adjacent lane. -/
theorem look_joins (hm : RoadMap.ofParts points junctions splines = .ok m)
    (hwidth : 0 ≤ d.laneWidth) (hradius : 0 ≤ d.radius) (hp : p.index < m.points.size) {offset : K}
    (hoffset : offset * offset = d.laneWidth * d.laneWidth)
    (h : d.look m (m.point p) offset = .lane q) : d.Joins m p q := by
  obtain ⟨-, hdistinct, hway, hnear, hleast⟩ := look_spec hm h
  have hid : (m.point p).id = p := (RoadMap.validated_of_ofParts hm).wellFormed.id hp
  unfold placeBeside at hnear hleast
  rw [hid] at hdistinct hway hnear hleast
  refine ⟨hdistinct.symm, hway, fun hside => ?_, fun hside => ?_⟩
  · -- the place is a lane width away from the point, and what is there is near the place
    have hlength := (Vec3.direction_cases _).resolve_left hside
    refine Vec3.distance_within (Vec3.distance_eq hwidth ?_) (Vec3.distance_le hradius hnear)
    rw [Vec3.distanceSquared_add_scale, hoffset]
    exact (congrArg _ hlength).trans (mul_one _)
  · -- the place is where the point is, and so is the nearest point
    have hself := hleast p hp
    rw [hside, Vec3.add_scale_zero, Vec3.distanceSquared_self] at hself
    exact Vec3.eq_of_distanceSquared_le hself

/-- The links of a point are found a lane width away from it. -/
theorem linksAt_joins (hm : RoadMap.ofParts points junctions splines = .ok m)
    (hwidth : 0 ≤ d.laneWidth) (hradius : 0 ≤ d.radius) (hp : p.index < m.points.size)
    (h : (d.linksAt m (m.point p)).1 = some q ∨ (d.linksAt m (m.point p)).2 = some q) :
    d.Joins m p q := by
  rcases h with h | h
  · refine look_joins hm hwidth hradius hp ?_ (of_linksAt.1 h)
    rw [scalar_mul_eq, scalar_ofNat_eq, Nat.cast_one, one_mul]
  · refine look_joins hm hwidth hradius hp ?_ (of_linksAt.2 h)
    rw [scalar_mul_eq, scalar_neg_eq, scalar_ofNat_eq, Nat.cast_one, neg_one_mul, neg_mul_neg]

/-- Detecting lanes on a map always succeeds. Each link that is gained joins two points that travel
the same way, unless oncoming lanes count as well, and are a lane width apart, give or take the
radius, unless the first one has no left side; then they are in the same place. -/
theorem detect_joins (hm : RoadMap.ofParts points junctions splines = .ok m)
    (hd : make w r twoWay = .ok d) :
    Faultless (d.detect m) ∧ ∀ added m', Answers (d.detect m) (added, m') →
      ∀ p q, m.Gains m' p q → d.Joins m p q := by
  refine ⟨faultless_detect d m, fun added m' h p q hgains => ?_⟩
  obtain ⟨hr, hw, rfl⟩ := make_eq_ok.mp hd
  rw [detect_answers h] at hgains
  obtain ⟨hp, hfound⟩ := RoadMap.of_gains hgains
  have hfactor : (0 : K) ≤ Settings.minWidthFactor := by
    unfold Settings.minWidthFactor
    rw [scalar_div_eq, scalar_ofNat_eq, scalar_ofNat_eq]
    positivity
  exact linksAt_joins hm (le_trans (mul_nonneg hfactor hr.le) hw) hr.le hp hfound

end

/-- A detector for lanes that are 3 m wide. -/
private noncomputable def threeMetres : LaneDetector ℝ := ⟨((3 : Nat) : ℝ), 1, false⟩

private theorem threeMetres_made : make ((3 : Nat) : ℝ) 1 false = .ok threeMetres := by
  refine make_eq_ok.mpr ⟨by norm_num, ?_, rfl⟩
  unfold Settings.minWidthFactor
  rw [ExactScalar.scalar_div_eq, ExactScalar.scalar_ofNat_eq, ExactScalar.scalar_ofNat_eq]
  norm_num

/-- Two lanes along `z`, the second one 3 m to the left of the first one. -/
private noncomputable def parallelLanes : RoadMap ℝ :=
  twoLanes ⟨0, 0, 0⟩ ⟨((3 : Nat) : ℝ), 0, 0⟩ ⟨0, 0, 1⟩

private theorem parallelLanes_accepted :
    RoadMap.ofParts (twoLanePoints ⟨0, 0, 0⟩ ⟨((3 : Nat) : ℝ), 0, 0⟩ ⟨0, 0, 1⟩) #[] [] =
      .ok parallelLanes :=
  twoLanes_accepted ..

private theorem parallelLanes_step : (⟨0, 0, 1⟩ : Vec3 ℝ).lengthSquared = 1 := by
  rw [Vec3.lengthSquared_eq]
  norm_num

private theorem parallelLanes_leftward : (parallelLanes.forward ⟨0⟩).leftward = ⟨1, 0, 0⟩ := by
  have hforward : parallelLanes.forward ⟨0⟩ = ⟨0, 0, 1⟩ := (twoLanes_forward parallelLanes_step).1
  rw [hforward, Vec3.leftward_eq, neg_zero, Vec3.direction_of_unit]
  rw [Vec3.lengthSquared_eq]
  norm_num

private theorem parallelLanes_gains {added : Nat} {m' : RoadMap ℝ}
    (h : Answers (threeMetres.detect parallelLanes) (added, m')) :
    parallelLanes.Gains m' ⟨0⟩ ⟨2⟩ := by
  have hplace : ∀ s : ℝ, s = (3 : Nat) →
      (⟨0, 0, 0⟩ : Vec3 ℝ) + (parallelLanes.forward ⟨0⟩).leftward.scale s =
        ⟨((3 : Nat) : ℝ), 0, 0⟩ := by
    rintro s rfl
    rw [parallelLanes_leftward]
    unfold Vec3.scale
    simp only [Vec3.add_eq, ExactScalar.scalar_mul_eq]
    norm_num
  have hends : ∀ x : ℝ, (⟨x, 0, 0⟩ + ⟨0, 0, 1⟩ : Vec3 ℝ) ≠ ⟨((3 : Nat) : ℝ), 0, 0⟩ := by
    intro x hx
    rw [Vec3.add_eq, Vec3.mk.injEq] at hx
    norm_num at hx
  obtain ⟨id, hid, hat, hlook⟩ :=
    look_at (d := threeMetres) parallelLanes_accepted (q := ⟨2⟩) (by decide)
  obtain ⟨-, hfirst⟩ | ⟨rfl, -⟩ := twoLanes_begin hid hat (hends 0) (hends (3 : Nat))
  · have hx : (0 : ℝ) = (3 : Nat) := (Vec3.mk.inj hfirst).1
    norm_num at hx
  · refine gains_of_look h (by decide) rfl rfl (hlook (by decide) (hplace _ ?_) (by decide)
      (twoLanes_sameDirection parallelLanes_step))
    rw [ExactScalar.scalar_mul_eq, ExactScalar.scalar_ofNat_eq, Nat.cast_one, one_mul]
    rfl

/-- The lane beside another one is found, and it is a lane width away. -/
theorem detect_parallel :
    RoadMap.ofParts (twoLanePoints ⟨0, 0, 0⟩ ⟨((3 : Nat) : ℝ), 0, 0⟩ ⟨0, 0, 1⟩) #[] [] =
      .ok parallelLanes ∧
    make ((3 : Nat) : ℝ) 1 false = .ok threeMetres ∧ ∃ added m',
      Answers (threeMetres.detect parallelLanes) (added, m') ∧
      parallelLanes.Gains m' ⟨0⟩ ⟨2⟩ ∧ (parallelLanes.forward ⟨0⟩).leftward ≠ .zero ∧
      threeMetres.Joins parallelLanes ⟨0⟩ ⟨2⟩ := by
  obtain ⟨hfaultless, hjoins⟩ := detect_joins parallelLanes_accepted threeMetres_made
  obtain ⟨⟨added, m'⟩, hanswers⟩ := hfaultless.answers
  have hgains := parallelLanes_gains hanswers
  refine ⟨parallelLanes_accepted, threeMetres_made, added, m', hanswers, hgains, ?_,
    hjoins added m' hanswers _ _ hgains⟩
  rw [parallelLanes_leftward]
  intro h
  exact one_ne_zero ((Vec3.mk.inj h).1.trans Nat.cast_zero)

/-- Two lanes that lead straight up from the same place. -/
private noncomputable def uprightLanes : RoadMap ℝ := twoLanes ⟨0, 0, 0⟩ ⟨0, 0, 0⟩ ⟨0, 1, 0⟩

private theorem uprightLanes_accepted :
    RoadMap.ofParts (twoLanePoints ⟨0, 0, 0⟩ ⟨0, 0, 0⟩ ⟨0, 1, 0⟩) #[] [] = .ok uprightLanes :=
  twoLanes_accepted ..

private theorem uprightLanes_gains {added : Nat} {m' : RoadMap ℝ}
    (h : Answers (threeMetres.detect uprightLanes) (added, m')) :
    uprightLanes.Gains m' ⟨0⟩ ⟨2⟩ ∨ uprightLanes.Gains m' ⟨2⟩ ⟨0⟩ := by
  have hstep : (⟨0, 1, 0⟩ : Vec3 ℝ).lengthSquared = 1 := by
    rw [Vec3.lengthSquared_eq]
    norm_num
  have hleft : (⟨0, 1, 0⟩ : Vec3 ℝ).leftward = .zero := by
    rw [Vec3.leftward_eq, Vec3.direction_of_none]
    rw [Vec3.lengthSquared_eq]
    norm_num
  have hplace : ∀ (v : Vec3 ℝ) (s : ℝ), v = ⟨0, 1, 0⟩ →
      (⟨0, 0, 0⟩ : Vec3 ℝ) + v.leftward.scale s = ⟨0, 0, 0⟩ := by
    rintro v s rfl
    rw [hleft, Vec3.add_scale_zero]
  have hends : (⟨0, 0, 0⟩ + ⟨0, 1, 0⟩ : Vec3 ℝ) ≠ ⟨0, 0, 0⟩ := by
    intro hy
    rw [Vec3.add_eq, Vec3.mk.injEq] at hy
    norm_num at hy
  have hway : uprightLanes.sameDirection ⟨0⟩ ⟨2⟩ = true := twoLanes_sameDirection hstep
  -- both lanes are looked for where they begin, and the same point is found for both of them
  obtain ⟨id, hid, hat, hlook⟩ :=
    look_at (d := threeMetres) uprightLanes_accepted (q := ⟨0⟩) (by decide)
  obtain ⟨rfl, -⟩ | ⟨rfl, -⟩ := twoLanes_begin hid hat hends hends
  · exact Or.inr (gains_of_look h (by decide) rfl rfl (hlook (by decide)
      (hplace _ _ (twoLanes_forward hstep).2) (by decide)
      ((RoadMap.sameDirection_comm ..).trans hway)))
  · exact Or.inl (gains_of_look h (by decide) rfl rfl (hlook (by decide)
      (hplace _ _ (twoLanes_forward hstep).1) (by decide) hway))

/-- Coincident lanes that lead straight up are linked to each other. -/
theorem detect_coincident :
    RoadMap.ofParts (twoLanePoints ⟨0, 0, 0⟩ ⟨0, 0, 0⟩ ⟨0, 1, 0⟩) #[] [] = .ok uprightLanes ∧
    make ((3 : Nat) : ℝ) 1 false = .ok threeMetres ∧ ∃ added m' p q,
      Answers (threeMetres.detect uprightLanes) (added, m') ∧ uprightLanes.Gains m' p q ∧
      ¬ (threeMetres.laneWidth - threeMetres.radius ≤ uprightLanes.distance p q ∧
        uprightLanes.distance p q ≤ threeMetres.laneWidth + threeMetres.radius) := by
  have hgap : 0 < threeMetres.laneWidth - threeMetres.radius := by
    unfold threeMetres
    norm_num
  have hshort : ∀ v : Vec3 ℝ, v.distance v < threeMetres.laneWidth - threeMetres.radius :=
    fun v => (Vec3.distance_eq (le_refl 0)
      (by rw [Vec3.distanceSquared_self, mul_zero])).trans_lt hgap
  obtain ⟨⟨added, m'⟩, hanswers⟩ := (faultless_detect threeMetres uprightLanes).answers
  refine ⟨uprightLanes_accepted, threeMetres_made, added, m', ?_⟩
  rcases uprightLanes_gains hanswers with hgains | hgains
  · exact ⟨_, _, hanswers, hgains, fun hrange => absurd hrange.1 (not_le.mpr (hshort _))⟩
  · exact ⟨_, _, hanswers, hgains, fun hrange => absurd hrange.1 (not_le.mpr (hshort _))⟩

end LaneDetector

end RoadTraffic
