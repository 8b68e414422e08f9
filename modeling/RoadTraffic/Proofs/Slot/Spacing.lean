import Mathlib.Data.List.Pairwise
import RoadTraffic.Proofs.Settings.Check
import RoadTraffic.Proofs.Slot.Conflicts
import RoadTraffic.Proofs.Vehicle.Placement

/-!
# The spacing of a slot's vehicles

A slot is spaced (`Spaced`) if no two of its vehicles on the road that travel the same way are
closer together than the settings ask. Three things bring that about and keep it. Of two vehicles in
conflict one is taken off the road, so that a slot is spaced once its unsafe vehicles are gone
(`removeUnsafe_spaced`). A slot that loses vehicles stays spaced (`canPlace_spaced`). And a vehicle
that is admitted at a point has all others of its way at the larger of the two distances of the
settings, so that the slot is spaced with it at the point as well (`place_spaced`).
-/

namespace RoadTraffic

namespace Slot

section

variable {α ρ : Type} {slot : Slot α ρ} {serial i : Nat} {v a : Vehicle α ρ}

/-- With another vehicle in one place the others are on the road as before. -/
theorem placed_store (h : (i, a) ∈ (slot.store serial v).placed) :
    (i = serial ∧ a = v) ∨ (i ≠ serial ∧ (i, a) ∈ slot.placed) := by
  obtain ⟨hi, ha, hplaced⟩ := mem_placed.mp h
  unfold store at hi ha
  rw [Array.getElem?_setIfInBounds] at ha
  split at ha
  · next heq =>
    split at ha
    · exact Or.inl ⟨heq.symm, (Option.some.inj ha).symm⟩
    · cases ha
  · next hne => exact Or.inr ⟨fun h => hne h.symm, mem_placed.mpr ⟨hi, ha, hplaced⟩⟩

variable [Scalar α]

/-- A vehicle that is tried for a place brings none on the road. -/
theorem canPlace_placed {slot' : Slot α ρ} {m : RoadMap α} {s : Settings α} {id : VehicleId}
    {point : PointId} {admitted : Bool}
    (h : Answers (slot.canPlace m s id point) (admitted, slot')) {p : Nat × Vehicle α ρ}
    (hp : p ∈ slot'.placed) : p ∈ slot.placed := by
  rcases canPlace_cases h with ⟨rfl, -⟩ | ⟨-, -, -, -, rfl⟩
  · exact hp
  · obtain ⟨hpool, hv, hplaced⟩ := mem_placed.mp hp
    exact (mem_placed_removeFromRoad.mp
      (mem_placed.mpr ⟨List.mem_of_mem_erase hpool, hv, hplaced⟩)).1

/-- If a point is not crowded, no other vehicle of its way is near it. -/
theorem not_near_of_isCrowded {m : RoadMap α} {s : Settings α} {point : PointId}
    (h : slot.isCrowded m s serial point = false) (ha : (i, a) ∈ slot.placed) (hi : i ≠ serial)
    (hdir : m.sameDirection a.point point = true) :
    ¬ a.position.distanceSquared (m.point point).position < s.spawnSpacing * s.spawnSpacing := by
  intro hnear
  unfold isCrowded at h
  refine List.any_eq_false.mp h (i, a) ha ?_
  dsimp only
  rw [bne_iff_ne.mpr hi, decide_eq_true hnear, hdir]
  rfl

end

section

variable {K ρ : Type} [Field K] [LinearOrder K] [IsStrictOrderedRing K] [Scalar K]

/-- No two vehicles on the road that travel the same way are closer together than they may be. -/
def Spaced (m : RoadMap K) (s : Settings K) (slot : Slot K ρ) : Prop :=
  ∀ i a j b, (i, a) ∈ slot.placed → (j, b) ∈ slot.placed → i ≠ j →
    m.sameDirection a.point b.point = true → ¬ a.position.distance b.position < s.minSpacing

variable {m : RoadMap K} {s : Settings K} {slot slot' : Slot K ρ}

omit [Field K] [IsStrictOrderedRing K] in
/-- A slot that only loses vehicles stays spaced. -/
theorem Spaced.subset (h : slot.Spaced m s) (hsub : ∀ p ∈ slot'.placed, p ∈ slot.placed) :
    slot'.Spaced m s :=
  fun i a j b ha hb hne hdir => h i a j b (hsub _ ha) (hsub _ hb) hne hdir

omit [Field K] [IsStrictOrderedRing K] in
theorem canPlace_spaced {id : VehicleId} {point : PointId} {admitted : Bool}
    (hs : slot.Spaced m s) (h : Answers (slot.canPlace m s id point) (admitted, slot')) :
    slot'.Spaced m s :=
  hs.subset fun _ => canPlace_placed h

variable [ExactScalar K]

theorem tooClose_comm (m : RoadMap K) (s : Settings K) (a b : Vehicle K ρ) :
    tooClose m s a b = tooClose m s b a := by
  unfold tooClose
  rw [m.sameDirection_comm, Vec3.distanceSquared_comm]

/-- Once its unsafe vehicles are taken off the road, a slot is spaced. -/
theorem removeUnsafe_spaced {count : Nat} (h : Answers (slot.removeUnsafe m s) (count, slot')) :
    slot'.Spaced m s := by
  obtain rfl := removeUnsafe_eq h
  intro i a j b ha hb hne hdir
  -- whichever of the two came first, they are not too close
  have : Std.Symm fun p q : Nat × Vehicle K ρ => tooClose m s p.2 q.2 = false :=
    ⟨fun p q hpq => (tooClose_comm m s q.2 p.2).trans hpq⟩
  have hfar := (removeUnsafe_pairwise m s slot).forall ha hb fun heq => hne (Prod.mk.inj heq).1
  have hsquares : ¬ a.position.distanceSquared b.position < s.minSpacing * s.minSpacing := by
    unfold tooClose at hfar
    rw [hdir, Bool.and_true, decide_eq_false_iff_not, ExactScalar.scalar_lt_iff,
      ExactScalar.scalar_mul_eq] at hfar
    exact hfar
  exact Vec3.not_distance_lt fun _ => not_lt.mp hsquares

/-- A slot stays spaced if a vehicle is put back that keeps its distance from all others. -/
theorem Spaced.store (hs : slot.Spaced m s) {serial : Nat} {v : Vehicle K ρ}
    (hv : v.placed = true → ∀ j b, (j, b) ∈ slot.placed → j ≠ serial →
      m.sameDirection b.point v.point = true → ¬ b.position.distance v.position < s.minSpacing) :
    (slot.store serial v).Spaced m s := by
  intro i a j b ha hb hne hdir
  have hplaced : ∀ {k c}, (k, c) ∈ (slot.store serial v).placed → c.placed = true :=
    fun hc => (mem_placed.mp hc).2.2
  rcases placed_store ha with ⟨hi, ha'⟩ | ⟨hi, ha'⟩
  · rcases placed_store hb with ⟨hj, hb'⟩ | ⟨hj, hb'⟩
    · exact absurd (hi.trans hj.symm) hne
    · rw [Vec3.distance_comm]
      rw [m.sameDirection_comm] at hdir
      rw [ha'] at hdir ⊢
      exact hv (ha' ▸ hplaced ha) j b hb' hj hdir
  · rcases placed_store hb with ⟨hj, hb'⟩ | ⟨hj, hb'⟩
    · rw [hb'] at hdir ⊢
      exact hv (hb' ▸ hplaced hb) i a ha' hi hdir
    · exact hs i a j b ha' hb' hne hdir

variable [RandomSource ρ]

/-- A vehicle that was admitted at a point keeps its distance there from all others of its slot. -/
theorem place_spaced {now : Millis} {id : VehicleId} {point : PointId} {v v' : Vehicle K ρ}
    {outcome : Except DeadEnd Unit} (hsettings : s.check = .ok ())
    (hflat : slot.profile.heightOffset = 0) (huniform : slot.Uniform) (hs : slot.Spaced m s)
    (hadmitted : Answers (slot.canPlace m s id point) (true, slot))
    (hv : slot.vehicles[id.serial]? = some v)
    (hplace : Answers (v.place m s point now true) (outcome, v')) :
    (slot.store id.serial v').Spaced m s := by
  obtain ⟨-, -, hpool, hfree⟩ := canPlace_admitted hadmitted
  refine hs.store fun hplaced j b hb hj hdir => ?_
  have hprofile := Vehicle.place_profile hplace
  rcases Vehicle.place_cases hplace with ⟨-, walker, rfl⟩ | ⟨-, u, rfl, hbegins, -⟩
  · -- the vehicle is where it was
    exact hs j b id.serial v hb (mem_placed.mpr ⟨hpool, hv, hplaced⟩) hj hdir
  · have hposition : (u.report m s now).position = (m.point point).position := by
      apply Vehicle.report_position_start hbegins
      have hu : u.profile = slot.profile :=
        hprofile.trans (huniform v (Array.mem_of_getElem? hv))
      rw [hu, hflat]
    have hpoint : (u.report m s now).point = point := hbegins.start
    rw [hpoint] at hdir
    rw [hposition]
    -- the check was made with the larger distance, and the settings keep the two in order
    have hfar := not_near_of_isCrowded hfree hb hj hdir
    rw [ExactScalar.scalar_lt_iff, ExactScalar.scalar_mul_eq] at hfar
    have hspacing := Settings.spawnSpacing_of_check hsettings
    rw [ExactScalar.scalar_lt_iff, not_lt] at hspacing
    exact Vec3.not_distance_lt fun hnonneg =>
      le_trans (mul_self_le_mul_self hnonneg hspacing) (not_lt.mp hfar)

end

end Slot

end RoadTraffic
