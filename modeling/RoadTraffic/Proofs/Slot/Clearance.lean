import RoadTraffic.Proofs.Slot.Spacing
import RoadTraffic.Proofs.Vehicle.SpeedBounds

/-!
# The clearance of a vehicle that appears

Before a vehicle appears at a point, the slot is searched for others that are too close. What is
compared are the positions that the others report, which are raised above the road by what their
profiles say, and the position of the point, which is not. Whoever is admitted has the others at the
distance of the settings from the bare point; its own report may come out closer to them, by as much
as it is raised itself (`Vec3.distance_sub_le_raised`).

`place_clearance` says what is kept, and `admitted_too_close` has two vans that are too close to
each other as soon as the second one is placed.
-/

namespace RoadTraffic

section

variable {K : Type} [Field K] [LinearOrder K] [IsStrictOrderedRing K] [Scalar K] [ExactScalar K]

namespace Vec3

/-- A position that is raised. -/
def raised (a : Vec3 K) (height : K) : Vec3 K := { a with y := a.y + height }

theorem add_raise (a : Vec3 K) (height : K) :
    a + ⟨@OfNat.ofNat K 0 (Scalar.instOfNat 0), height, @OfNat.ofNat K 0 (Scalar.instOfNat 0)⟩ =
      a.raised height := by
  unfold raised
  simp only [add_eq, ExactScalar.scalar_ofNat_eq, Nat.cast_zero, add_zero]

/-- What is raised goes away from what is not above it, and comes closer to what is high above. -/
theorem distanceSquared_raised (a b : Vec3 K) (height : K) :
    a.distanceSquared (b.raised height) =
      a.distanceSquared b + height * (height - (a.y - b.y) - (a.y - b.y)) := by
  unfold raised
  rw [distanceSquared_eq, distanceSquared_eq]
  ring

/-- What is raised comes closer by its height at most. -/
theorem distance_sub_le_raised {a b : Vec3 K} {height d : K}
    (h : 0 ≤ d → d * d ≤ a.distanceSquared b) :
    d - |height| ≤ a.distance (b.raised height) := by
  -- roots may be rounded up, so that a bound on a distance is found in the squares
  have hroot := distanceSquared_le (distance_nonneg a (b.raised height)) (le_refl _)
  have hnonneg := distance_nonneg a (b.raised height)
  generalize a.distance (b.raised height) = r at hroot hnonneg ⊢
  have hrise : |b.y + height - a.y| ≤ r := by
    refine abs_le_of_sq_le_sq ?_ hnonneg
    have hx := mul_self_nonneg (b.x - a.x)
    have hz := mul_self_nonneg (b.z - a.z)
    rw [distanceSquared_eq] at hroot
    unfold raised at hroot
    linarith
  have hback : -(height * (b.y + height - a.y)) ≤ |height| * r :=
    calc -(height * (b.y + height - a.y)) ≤ |height * (b.y + height - a.y)| := neg_le_abs _
      _ = |height| * |b.y + height - a.y| := abs_mul ..
      _ ≤ |height| * r := mul_le_mul_of_nonneg_left hrise (abs_nonneg height)
  rw [distanceSquared_raised] at hroot
  have hsquare : a.distanceSquared b ≤ (r + |height|) * (r + |height|) :=
    calc a.distanceSquared b
        = a.distanceSquared b + height * (height - (a.y - b.y) - (a.y - b.y)) +
            (-(height * (b.y + height - a.y)) + -(height * (b.y + height - a.y))) +
            height * height := by ring
      _ ≤ r * r + (|height| * r + |height| * r) + height * height :=
        add_le_add (add_le_add hroot (add_le_add hback hback)) (le_refl _)
      _ = (r + |height|) * (r + |height|) := by
        rw [← abs_mul_abs_self height]
        ring
  rw [sub_le_iff_le_add]
  by_contra hfar
  rw [not_le] at hfar
  have hsum : 0 ≤ r + |height| := add_nonneg hnonneg (abs_nonneg height)
  have hd := h (hsum.trans hfar.le)
  exact absurd (mul_self_lt_mul_self hsum hfar) (not_lt.mpr (hd.trans hsquare))

end Vec3

end

variable {K ρ : Type} [Field K] [LinearOrder K] [IsStrictOrderedRing K] [Scalar K] [ExactScalar K]
  [RandomSource ρ] {m : RoadMap K} {s : Settings K} {v v' : Vehicle K ρ} {point : PointId}
  {now : Millis} {renewed : Bool}

/-- A vehicle that is placed is where the point is, raised by what its profile says. -/
theorem Vehicle.place_position (h : Answers (v.place m s point now renewed) (.ok (), v')) :
    v'.position = (m.point point).position.raised v.profile.heightOffset := by
  rcases place_ends h with ⟨-, -, hfailed, -⟩ | ⟨next, walker, -, hnext, -⟩
  · cases hfailed
  · rcases place_cases h with ⟨hnone, -⟩ | ⟨-, u, rfl, hbegins, -⟩
    · rw [hnext] at hnone
      cases hnone
    · have hprofile : (u.report m s now).profile = v.profile := place_profile h
      rw [report_position_raised hbegins, ← hprofile, Vec3.add_raise]
      rfl

namespace Slot

variable {slot slot' : Slot K ρ} {id : VehicleId}

/-- **The clearance of a vehicle that appears.** A vehicle that was admitted at a point and is
placed there reports the point, raised by what its profile says. All others on the road that travel
the same way keep the distance of the settings to the point itself. They keep it to the vehicle as
well unless that is raised towards them, and then no more is missing than the height by which it
is. -/
theorem place_clearance (hadmitted : Answers (slot.canPlace m s id point) (true, slot'))
    (hplace : Answers (v.place m s point now renewed) (.ok (), v')) :
    v'.position = (m.point point).position.raised v.profile.heightOffset ∧
    ∀ j b, (j, b) ∈ slot'.placed → j ≠ id.serial → m.sameDirection b.point point = true →
      ¬ b.position.distance (m.point point).position < s.spawnSpacing ∧
      s.spawnSpacing - |v.profile.heightOffset| ≤ b.position.distance v'.position ∧
      (0 ≤ v.profile.heightOffset * (v.profile.heightOffset
          - (b.position.y - (m.point point).position.y)
          - (b.position.y - (m.point point).position.y)) →
        ¬ b.position.distance v'.position < s.spawnSpacing) := by
  obtain ⟨rfl, -, -, hfree⟩ := canPlace_admitted hadmitted
  have hposition := Vehicle.place_position hplace
  refine ⟨hposition, fun j b hb hj hdir => ?_⟩
  have hfar := not_near_of_isCrowded hfree hb hj hdir
  rw [ExactScalar.scalar_lt_iff, ExactScalar.scalar_mul_eq, not_lt] at hfar
  rw [hposition]
  refine ⟨Vec3.not_distance_lt fun _ => hfar, Vec3.distance_sub_le_raised fun _ => hfar,
    fun haway => Vec3.not_distance_lt fun _ => ?_⟩
  rw [Vec3.distanceSquared_raised]
  exact le_add_of_le_of_nonneg hfar haway

/-! Two vans on a road whose points are 4 m apart, each of them 3 m above it. -/

/-- A point of the lane, and how far along it that is. -/
private def pacedPoint (index : Nat) (z : Rat) (next previous : Option PointId) : RoadPoint Rat :=
  { RoadPoint.unlinked ⟨index⟩ ⟨0, 0, z⟩ with
    next, previous, length := if next.isSome then 4 else 0 }

/-- A lane of three points. -/
private def pacedLane : RoadMap Rat where
  points := #[
    pacedPoint 0 0 (some ⟨1⟩) none,
    pacedPoint 1 4 (some ⟨2⟩) (some ⟨0⟩),
    pacedPoint 2 8 none (some ⟨1⟩)]
  junctions := #[]
  splines := [⟨"lane", [⟨0⟩, ⟨1⟩, ⟨2⟩], false⟩]
  tree := .empty

/-- Settings by which vans ride high, and vehicles appear 5 m from others. -/
private def vanSettings : Settings Rat :=
  { Settings.standard with
    minSpacing := 5
    spawnSpacing := 5
    speedVariation := 0
    overrides := [{ Override.ofModel "van" with heightOffset := some 3 }] }

/-- A slot of two vans that are not on the road. -/
private def parkedVans : Slot Rat (Tape fun _ _ => 0) :=
  answerOf ((Slot.new (SlotKey.nth 0) "van" "" .traffic vanSettings 0).setTarget vanSettings 2)
    (by decide +kernel)

private theorem parkedVans_size : parkedVans.vehicles.size = 2 := by decide +kernel

/-- A van of the slot is placed on the lane. -/
private def placeVan (serial : Nat) (hserial : serial < 2) (point : PointId) :
    Logged Rat (Except DeadEnd Unit × Vehicle Rat (Tape fun _ _ => 0)) :=
  have : serial < parkedVans.vehicles.size := parkedVans_size.symm ▸ hserial
  parkedVans.vehicles[serial].place pacedLane vanSettings point 0 true

private theorem aheadPlaced : ((placeVan 1 (by decide) ⟨1⟩) #[]).1.isOk = true := by
  decide +kernel

private theorem behindPlaced : ((placeVan 0 (by decide) ⟨0⟩) #[]).1.isOk = true := by
  decide +kernel

/-- The van that is placed first, at the middle of the lane. -/
private def vanAhead : Vehicle Rat (Tape fun _ _ => 0) := (answerOf _ aheadPlaced).2

/-- The other one, once it is placed at the beginning of the lane. -/
private def vanBehind : Vehicle Rat (Tape fun _ _ => 0) := (answerOf _ behindPlaced).2

private def oneVanAhead : Slot Rat (Tape fun _ _ => 0) := parkedVans.store 1 vanAhead

private theorem vanBehind_tried : ((oneVanAhead.canPlace pacedLane vanSettings
    ⟨SlotKey.nth 0, 0⟩ ⟨0⟩) #[]).1.isOk = true := by decide +kernel

private theorem vanBehind_admitted :
    Answers (oneVanAhead.canPlace pacedLane vanSettings ⟨SlotKey.nth 0, 0⟩ ⟨0⟩)
      (true, oneVanAhead) := by
  have hadmitted := answers_of_fst (h := vanBehind_tried) (b := true) (by decide +kernel)
  have hsame := (canPlace_admitted hadmitted).1
  rw [hsame] at hadmitted
  exact hadmitted

private theorem vanBehind_placed :
    Answers (placeVan 0 (by decide) ⟨0⟩) (.ok (), vanBehind) :=
  answers_of_fst (by decide +kernel)

private theorem vanAhead_mem : (1, vanAhead) ∈ oneVanAhead.placed := by
  refine mem_placed.mpr ⟨by decide +kernel, ?_, by decide +kernel⟩
  unfold oneVanAhead store
  exact Array.getElem?_setIfInBounds_self_of_lt (by rw [parkedVans_size]; decide)

private theorem vanAhead_direction :
    pacedLane.sameDirection vanAhead.point ⟨0⟩ = true := by decide +kernel

/-- The van ahead is 5 m from the point, and not further than 3 m closer to the van behind. -/
theorem place_clearance_of_vans :
    vanBehind.position = (pacedLane.point ⟨0⟩).position.raised 3 ∧
      ¬ vanAhead.position.distance (pacedLane.point ⟨0⟩).position < 5 ∧
      5 - |3| ≤ vanAhead.position.distance vanBehind.position := by
  obtain ⟨hposition, hothers⟩ :=
    place_clearance vanBehind_admitted (answers_lift vanBehind_placed)
  obtain ⟨hpoint, hvan, -⟩ := hothers 1 vanAhead vanAhead_mem (by decide) vanAhead_direction
  exact ⟨hposition, hpoint, hvan⟩

/-- A van is admitted 5 m from the other one, and has it 4 m away when it is placed. -/
theorem admitted_too_close :
    pacedLane.Validated ∧ vanSettings.check = .ok () ∧
      Answers (oneVanAhead.canPlace pacedLane vanSettings ⟨SlotKey.nth 0, 0⟩ ⟨0⟩)
        (true, oneVanAhead) ∧
      Answers (placeVan 0 (by decide) ⟨0⟩) (.ok (), vanBehind) ∧
      (1, vanAhead) ∈ oneVanAhead.placed ∧
      pacedLane.sameDirection vanAhead.point ⟨0⟩ = true ∧
      vanAhead.position.distance vanBehind.position < vanSettings.spawnSpacing := by
  have hvalid : pacedLane.Validated := by
    unfold RoadMap.Validated
    decide +kernel
  exact ⟨hvalid, by decide +kernel, vanBehind_admitted, vanBehind_placed, vanAhead_mem,
    vanAhead_direction, by decide +kernel⟩

end Slot

end RoadTraffic
