import RoadTraffic.Proofs.Random.Bounds
import RoadTraffic.Proofs.Random.Normal
import RoadTraffic.Proofs.Roads.SideBySide
import RoadTraffic.Proofs.Vehicle.SpeedBounds

/-!
# Vehicles that are given a speed

A vehicle that is placed anew is given a speed by a random factor around one. The factor is held
between bounds that lie as far apart as the settings vary the speed. The check of the settings does
not look at that variation, nor at the bonus of fast lanes.

`place_drives_iff` says with which of the accepted settings every vehicle is given a speed that it
can drive: those whose variation is not below zero and less than two, at points where the speed of
the lane is above zero. It also says what becomes of vehicles with the others. With a variation
below zero the bounds have changed places, and nobody can be placed (`place_of_variation_neg`). With
one of two or more it takes a low draw to be placed without a speed, and there are tapes that have
one (`Tape.exists_standardNormal_le`). Where the speed of the lane is not above zero the mean is
enough (`Tape.exists_standardNormal_zero`).
-/

namespace RoadTraffic

open ExactScalar

namespace Vehicle

section

variable {α ρ : Type} [Scalar α] [RandomSource ρ] {m : RoadMap α} {s : Settings α}
  {v : Vehicle α ρ} {point : PointId} {now : Millis}

/-- Who can be given a speed is renewed with it. -/
theorem exists_renew (m : RoadMap α) (point : PointId) {factor : α} {rest : ρ}
    (h : speedFactor s.speedVariation v.random = .ok (factor, rest)) :
    ∃ v', v.renew m s point = .ok v' ∧ Given (baseSpeed m s point * factor) v' := by
  unfold renew
  rw [h, ok_bind]
  dsimp only
  split
  · exact ⟨_, rfl, rfl, rfl, rfl⟩
  · exact ⟨_, rfl, rfl, rfl, rfl⟩

theorem renew_of_fault {fault : Fault}
    (h : speedFactor s.speedVariation v.random = .error fault) :
    v.renew m s point = .error fault := by
  unfold renew
  rw [h, error_bind]

/-- Whatever there is to draw from, a vehicle may draw from it. -/
theorem exists_random (s : Settings α) (r : ρ) : ∃ v : Vehicle α ρ, v.random = r :=
  ⟨{ Vehicle.new ⟨SlotKey.nth 0, 0⟩ s.profile s 0 with random := r }, rfl⟩

/-- Where a lane leads on a vehicle is placed by being renewed and settling, and nothing is drawn
for it before that. -/
theorem place_draws (v : Vehicle α ρ) (s : Settings α) (now : Millis)
    (hnext : (m.point point).next.isSome = true) :
    ∃ w : Vehicle α ρ, w.random = v.random ∧ v.place m s point now true = do
      let u ← w.renew m s point >>= settle m s now
      return (.ok (), u) := by
  rcases hstep : v.walker.clear.tryNext m point with ⟨_ | next, walker⟩
  · obtain ⟨q, hq⟩ := Option.isSome_iff_exists.mp hnext
    exact absurd (RoadMap.leads_iff.mpr (Or.inl hq))
      (Walker.not_leads_of_tryNext (congrArg Prod.fst hstep) q)
  · refine ⟨_, ?_, place_renewed hstep⟩
    rfl

end

variable {K ρ : Type} [Field K] [LinearOrder K] [IsStrictOrderedRing K] [Scalar K] [ExactScalar K]
  [RandomSource ρ] {m : RoadMap K} {s : Settings K} {v : Vehicle K ρ} {point : PointId}
  {now : Millis}

/-! ## The random factor -/

/-- How far the random factor may deviate from one. -/
def spread (s : Settings K) : K := 1 / (2 : Nat) * s.speedVariation

omit [Scalar K] [ExactScalar K] in
theorem spread_nonneg_iff : 0 ≤ spread s ↔ 0 ≤ s.speedVariation :=
  mul_nonneg_iff_of_pos_left (by positivity)

omit [Scalar K] [ExactScalar K] in
/-- The bounds of the factor are in order if the variation is not below zero. -/
theorem bounds_ordered_iff : 1 - spread s ≤ 1 + spread s ↔ 0 ≤ s.speedVariation := by
  rw [← spread_nonneg_iff]
  constructor
  · intro h
    linarith
  · intro h
    linarith

/-- The random factor around one that a normal number gives. -/
def factorAt (s : Settings K) (z : K) : K :=
  Scalar.clampTo (1 - spread s) (1 + spread s) (1 + 1 / (2 : Nat) * spread s * z)

/-- The bounds of the factor are in order, or there is a fault. -/
theorem speedFactor_cases (s : Settings K) (r : ρ) :
    (0 ≤ s.speedVariation ∧ ∃ rest, speedFactor s.speedVariation r =
      .ok (factorAt s (RandomSource.standardNormal r).1, rest)) ∨
    (s.speedVariation < 0 ∧ speedFactor s.speedVariation r = .error .emptyRange) := by
  unfold speedFactor
  simp only [RandomSource.normal_eq, Option.getD_some, scalar_add_eq, scalar_sub_eq,
    scalar_mul_eq, scalar_div_eq, scalar_ofNat_eq, scalar_le_iff, Nat.cast_one]
  by_cases h : 0 ≤ s.speedVariation
  · exact Or.inl ⟨h, _, if_pos (bounds_ordered_iff.mpr h)⟩
  · exact Or.inr ⟨not_le.mp h, if_neg fun hle => h (bounds_ordered_iff.mp hle)⟩

theorem abs_factorAt_sub_one_le (h : 0 ≤ s.speedVariation) (z : K) :
    |factorAt s z - 1| ≤ spread s := by
  obtain ⟨hlow, hhigh⟩ := clampTo_mem (bounds_ordered_iff.mpr h)
    (1 + 1 / (2 : Nat) * spread s * z)
  rw [abs_sub_le_iff]
  unfold factorAt
  exact ⟨by linarith, by linarith⟩

/-- Two deviations below the mean the factor is at its lower bound. -/
theorem factorAt_of_low (h : 0 ≤ s.speedVariation) {z : K} (hz : z ≤ -(2 : Nat)) :
    factorAt s z ≤ 1 - spread s := by
  have hspread := spread_nonneg_iff.mpr h
  have hbelow : 1 + 1 / (2 : Nat) * spread s * z ≤ 1 - spread s := by
    have hhalf : 0 ≤ 1 / ((2 : Nat) : K) * spread s := mul_nonneg (by positivity) hspread
    have hscaled := mul_le_mul_of_nonneg_left hz hhalf
    have htwo : 1 / ((2 : Nat) : K) * spread s * -(2 : Nat) = -spread s := by
      field_simp
    linarith
  unfold factorAt Scalar.clampTo
  simp only [scalar_lt_iff]
  split
  · exact le_refl _
  split
  · next hhigh =>
    exact absurd (hhigh.trans_le (hbelow.trans (bounds_ordered_iff.mpr h))) (lt_irrefl _)
  · exact hbelow

/-- At the mean the factor is one. -/
theorem factorAt_zero (h : 0 ≤ s.speedVariation) : factorAt s 0 = 1 := by
  have hspread := spread_nonneg_iff.mpr h
  unfold factorAt Scalar.clampTo
  simp only [scalar_lt_iff, mul_zero, add_zero]
  rw [if_neg (by linarith), if_neg (by linarith)]

/-- If the variation is two or more, or the base not above zero, there is a tape by which the
product of the base and the factor is not above zero. -/
theorem exists_factor_nonpos {seeds : UInt64 → Nat → UInt32} (hnonneg : 0 ≤ s.speedVariation)
    {base : K} (h : (2 : Nat) ≤ s.speedVariation ∨ base ≤ 0) :
    ∃ t : Tape seeds, base * factorAt s (RandomSource.standardNormal t).1 ≤ 0 := by
  by_cases hbase : base ≤ 0
  · obtain ⟨t, ht⟩ : ∃ t : Tape seeds, (RandomSource.standardNormal t).1 = (0 : K) :=
      Tape.exists_standardNormal_zero
    exact ⟨t, by rwa [ht, factorAt_zero hnonneg, mul_one]⟩
  · have hwide := h.resolve_right hbase
    rw [not_le] at hbase
    obtain ⟨t, ht⟩ : ∃ t : Tape seeds, (RandomSource.standardNormal t).1 ≤ -((2 : Nat) : K) :=
      Tape.exists_standardNormal_le
    have hspread : 1 ≤ spread s := by
      unfold spread
      rw [one_div_mul_eq_div, one_le_div (by positivity)]
      exact hwide
    have hfactor := factorAt_of_low hnonneg ht
    exact ⟨t, mul_nonpos_of_nonneg_of_nonpos hbase.le (by linarith)⟩

/-! ## Placing with a new speed -/

/-- With settings that are accepted nothing is in the way of settling, as long as time lasts. -/
theorem exists_settle (hs : s.check = .ok ()) (hnow : now + s.spawnProtection.max ≤ Millis.last)
    (v : Vehicle K ρ) : ∃ v', v.settle m s now = .ok v' := by
  have hordered : s.spawnProtection.min ≤ s.spawnProtection.max :=
    of_decide_eq_true (Settings.orders_of_check hs).2.1
  have hmax : s.spawnProtection.max < Nat.pow 2 64 :=
    lt_of_le_of_lt (le_trans (Nat.le_add_left ..) hnow) (by decide)
  have hdrawn := (Interval.draw_mem hordered hmax v.random).2
  unfold settle
  rcases hdraw : s.spawnProtection.draw v.random with ⟨protection, rest⟩
  rw [hdraw] at hdrawn
  have hlater : Millis.later now protection = .ok (now + protection) :=
    if_pos (le_trans (Nat.add_le_add_left hdrawn now) hnow)
  obtain ⟨drawn, hdistance⟩ : ∃ drawn, s.safetyDistance.drawScalar rest = .ok drawn := by
    unfold Interval.drawScalar RandomSource.betweenScalars
    dsimp only
    rw [if_pos (scalar_isFinite _)]
    split
    · exact ⟨_, rfl⟩
    · exact ⟨_, rfl⟩
  dsimp only
  rw [hlater, ok_bind, hdistance]
  exact ⟨_, rfl⟩

/-- Where a lane leads on, whoever can be given a speed can be placed with it. -/
theorem place_of_speedFactor (hs : s.check = .ok ()) (hnext : (m.point point).next.isSome = true)
    (hnow : now + s.spawnProtection.max ≤ Millis.last) {factor : K} {rest : ρ}
    (hfactor : speedFactor s.speedVariation v.random = .ok (factor, rest)) :
    ∃ v', v.place m s point now true = .ok (.ok (), v') ∧
      Given (baseSpeed m s point * factor) v' := by
  obtain ⟨w, hrandom, hplace⟩ := place_draws v s now hnext
  rw [← hrandom] at hfactor
  obtain ⟨u, hu, hgiven⟩ := exists_renew m point hfactor
  obtain ⟨v', hv'⟩ := exists_settle (m := m) hs hnow u
  refine ⟨v', ?_, ?_⟩
  · rw [hplace, hu, ok_bind, hv']
    rfl
  · obtain ⟨protectedUntil, random, safetyDistanceSquared, rfl⟩ := settle_changes hv'
    rw [scalar_mul_eq] at hgiven
    exact ⟨hgiven.speed, hgiven.maxSpeed, hgiven.initialMaxSpeed⟩

/-- By a variation below zero nobody can be given a speed, and so nobody can be placed with one. -/
theorem place_of_variation_neg (hnext : (m.point point).next.isSome = true)
    (h : s.speedVariation < 0) : v.place m s point now true = .error .emptyRange := by
  obtain ⟨w, hrandom, hplace⟩ := place_draws v s now hnext
  rcases speedFactor_cases s w.random with ⟨hnonneg, -⟩ | ⟨-, hfault⟩
  · exact absurd h (not_lt.mpr hnonneg)
  · rw [hplace, renew_of_fault hfault]
    rfl

/-- The vehicle drives at the speed that it was given, which is above zero and does not deviate from
a base by more than a share of it. -/
structure DrivesNear (base share : K) (v : Vehicle K ρ) : Prop where
  pos : 0 < v.initialMaxSpeed
  near : |v.initialMaxSpeed - base| ≤ share * base
  current : v.speed.current = v.initialMaxSpeed
  target : v.speed.target = v.initialMaxSpeed
  maxSpeed : v.maxSpeed = v.initialMaxSpeed

omit [IsStrictOrderedRing K] [ExactScalar K] [RandomSource ρ] in
/-- Who has been given a speed drives near the base if the speed is near it. -/
theorem Given.drivesNear_iff {given base share : K} (h : Given given v) :
    v.DrivesNear base share ↔ 0 < given ∧ |given - base| ≤ share * base := by
  have hsteady := h.speed
  have hmax := h.maxSpeed
  obtain rfl := h.initialMaxSpeed
  constructor
  · intro hdrives
    exact ⟨hdrives.pos, hdrives.near⟩
  · rintro ⟨hpos, hnear⟩
    exact ⟨hpos, hnear, by rw [hsteady]; rfl, by rw [hsteady]; rfl, hmax⟩

/-- A factor that stays above zero gives a speed near the one that it is applied to. -/
theorem speed_near (hnonneg : 0 ≤ s.speedVariation) (hlt : s.speedVariation < (2 : Nat)) {base : K}
    (hbase : 0 < base) (z : K) :
    0 < base * factorAt s z ∧ |base * factorAt s z - base| ≤ spread s * base := by
  have hnear := abs_factorAt_sub_one_le hnonneg z
  have hspread : spread s < 1 := by
    unfold spread
    rw [one_div_mul_eq_div, div_lt_one (by positivity)]
    exact hlt
  have hfactor : 0 < factorAt s z := by
    have hlow := (abs_sub_le_iff.mp hnear).2
    linarith
  refine ⟨mul_pos hbase hfactor, ?_⟩
  calc |base * factorAt s z - base| = |factorAt s z - 1| * base := by
        rw [show base * factorAt s z - base = (factorAt s z - 1) * base by ring, abs_mul,
          abs_of_pos hbase]
    _ ≤ spread s * base := mul_le_mul_of_nonneg_right hnear hbase.le

/-- With a variation from zero to below two, and where the speed of the lane is above zero, every
vehicle is placed with a speed near that of the lane. -/
theorem place_drivesNear (hs : s.check = .ok ()) (hnext : (m.point point).next.isSome = true)
    (hnow : now + s.spawnProtection.max ≤ Millis.last) (hnonneg : 0 ≤ s.speedVariation)
    (hlt : s.speedVariation < (2 : Nat)) (hbase : 0 < baseSpeed m s point) (v : Vehicle K ρ) :
    ∃ v', v.place m s point now true = .ok (.ok (), v') ∧
      v'.DrivesNear (baseSpeed m s point) (spread s) := by
  rcases speedFactor_cases s v.random with ⟨-, rest, hfactor⟩ | ⟨hneg, -⟩
  · obtain ⟨v', hplace, hgiven⟩ := place_of_speedFactor hs hnext hnow hfactor
    exact ⟨v', hplace, hgiven.drivesNear_iff.mpr (speed_near hnonneg hlt hbase _)⟩
  · exact absurd hneg (not_lt.mpr hnonneg)

/-- If the variation is two or more, or the speed of the lane not above zero, there is a tape by
which all vehicles that draw from it are placed with a speed that is not above zero. -/
theorem exists_place_nonpos {seeds : UInt64 → Nat → UInt32} (hs : s.check = .ok ())
    (hnext : (m.point point).next.isSome = true)
    (hnow : now + s.spawnProtection.max ≤ Millis.last) (hnonneg : 0 ≤ s.speedVariation)
    (h : (2 : Nat) ≤ s.speedVariation ∨ baseSpeed m s point ≤ 0) :
    ∃ tape : Tape seeds, ∀ v : Vehicle K (Tape seeds), v.random = tape →
      ∃ v' given, v.place m s point now true = .ok (.ok (), v') ∧ Given given v' ∧ given ≤ 0 := by
  obtain ⟨tape, hstops⟩ := exists_factor_nonpos hnonneg h
  refine ⟨tape, fun v hv => ?_⟩
  subst hv
  rcases speedFactor_cases s v.random with ⟨-, rest, hfactor⟩ | ⟨hneg, -⟩
  · obtain ⟨v', hplace, hgiven⟩ := place_of_speedFactor hs hnext hnow hfactor
    exact ⟨v', _, hplace, hgiven, hstops⟩
  · exact absurd hneg (not_lt.mpr hnonneg)

/-- **Which settings give every vehicle a speed to drive.** With settings that are accepted, where a
lane leads on and while time lasts, every vehicle can be placed with a new speed, whatever the
random words are, and then drives at it: above zero, and no further from the speed of the lane than
half the variation. That is so exactly if the variation is not below zero and less than two and the
speed of the lane is above zero. With a variation below zero no vehicle can be placed. Otherwise
there is a tape by which every vehicle is placed with a speed that is not above zero. -/
theorem place_drives_iff (hs : s.check = .ok ()) (hnext : (m.point point).next.isSome = true)
    (hnow : now + s.spawnProtection.max ≤ Millis.last) :
    ((∀ (ρ : Type) [RandomSource ρ] (v : Vehicle K ρ), ∃ v',
      v.place m s point now true = .ok (.ok (), v') ∧
        v'.DrivesNear (baseSpeed m s point) (spread s)) ↔
      0 ≤ s.speedVariation ∧ s.speedVariation < (2 : Nat) ∧ 0 < baseSpeed m s point) ∧
    (s.speedVariation < 0 → ∀ (ρ : Type) [RandomSource ρ] (v : Vehicle K ρ),
      v.place m s point now true = .error .emptyRange) ∧
    (0 ≤ s.speedVariation → (2 : Nat) ≤ s.speedVariation ∨ baseSpeed m s point ≤ 0 →
      ∀ seeds, ∃ tape : Tape seeds, ∀ v : Vehicle K (Tape seeds), v.random = tape →
        ∃ v' given, v.place m s point now true = .ok (.ok (), v') ∧ Given given v' ∧
          given ≤ 0) := by
  refine ⟨⟨fun h => ?_, fun ⟨hnonneg, hlt, hbase⟩ _ _ v =>
      place_drivesNear hs hnext hnow hnonneg hlt hbase v⟩,
    fun hneg _ _ _ => place_of_variation_neg hnext hneg,
    fun hnonneg hslow _ => exists_place_nonpos hs hnext hnow hnonneg hslow⟩
  -- with all other settings some vehicle is not placed, or has no speed above zero
  have hnonneg : 0 ≤ s.speedVariation := by
    by_contra hneg
    obtain ⟨v, -⟩ : ∃ v : Vehicle K (Tape fun _ _ => 0), v.random = fun _ => 0 :=
      exists_random s _
    obtain ⟨v', hplace, -⟩ := h _ v
    rw [place_of_variation_neg hnext (not_le.mp hneg)] at hplace
    cases hplace
  by_contra hnot
  have hslow : (2 : Nat) ≤ s.speedVariation ∨ baseSpeed m s point ≤ 0 := by
    rw [← not_lt, ← not_lt, ← not_and_or]
    exact fun hfast => hnot ⟨hnonneg, hfast⟩
  obtain ⟨tape, hstops⟩ : ∃ tape : Tape fun _ _ => 0, _ :=
    exists_place_nonpos hs hnext hnow hnonneg hslow
  obtain ⟨v, hv⟩ := exists_random s tape
  obtain ⟨v', hplace, hdrives⟩ := h _ v
  obtain ⟨u, given, hu, hgiven, hnonpos⟩ := hstops v hv
  rw [hu] at hplace
  cases hplace
  exact absurd (hgiven.drivesNear_iff.mp hdrives).1 (not_lt.mpr hnonpos)

private def notYetPlaced : Vehicle Rat (Tape fun _ _ => 0) :=
  .new ⟨SlotKey.nth 0, 0⟩ Settings.standard.profile .standard 0

/-- With the usual settings a vehicle on the left one of two lanes is given a speed near 25 m/s. -/
theorem place_drives_on_left_lane :
    ∃ v', notYetPlaced.place sideBySide .standard ⟨2⟩ 0 true = .ok (.ok (), v') ∧
      v'.DrivesNear 25 (15 / 200) := by
  have hbase : baseSpeed sideBySide (.standard : Settings Rat) ⟨2⟩ = 25 := by decide +kernel
  have hspread : spread (.standard : Settings Rat) = 15 / 200 := by decide +kernel
  have hs : (Settings.standard : Settings Rat).check = .ok () := by decide +kernel
  have hnext : (sideBySide.point ⟨2⟩).next.isSome = true := by decide +kernel
  have hnow : 0 + (Settings.standard : Settings Rat).spawnProtection.max ≤ Millis.last := by decide
  obtain ⟨v', hplace, hdrives⟩ := (place_drives_iff hs hnext hnow).1.mpr
    ⟨by decide +kernel, by decide +kernel, by decide +kernel⟩ _ notYetPlaced
  rw [hbase, hspread] at hdrives
  exact ⟨v', hplace, hdrives⟩

/-- Settings by which the speed varies by less than nothing. -/
private def narrowing : Settings Rat := { Settings.standard with speedVariation := -(1 / 10) }

/-- They are accepted, and then no vehicle can be placed. -/
theorem accepted_but_not_placed :
    RoadMap.ofParts sideBySidePoints #[] [] = .ok sideBySide ∧ narrowing.check = .ok () ∧
      (sideBySide.point ⟨2⟩).next.isSome = true ∧
      notYetPlaced.place sideBySide narrowing ⟨2⟩ 0 true = .error .emptyRange := by
  have hnext : (sideBySide.point ⟨2⟩).next.isSome = true := by decide +kernel
  exact ⟨sideBySide_wellFormed, by decide +kernel, hnext,
    place_of_variation_neg hnext (by decide +kernel)⟩

end Vehicle

end RoadTraffic
