import RoadTraffic.Proofs.Settings.Check
import RoadTraffic.Proofs.Vehicle.Patience

/-!
# Bounds of speeds

A vehicle has four speeds: the one that it drives, the one that it makes for, the one that it may
drive at present and the one that it was given when it was placed. `Vehicle.Bounded` puts them in
order. It says more than that a vehicle keeps to its limit: whoever lowers the limit of a vehicle
has to leave it the speed that it drives, or the next moment would take the difference away at once.

Every operation keeps the order, in whatever sequence and at whatever times they are made
(`Arises.bounded`). A speed that is held at such a limit loses no more than its ramp takes
(`Speed.Bounded.advance_loses`).
-/

namespace RoadTraffic

open ExactScalar

namespace Speed

section

variable {α : Type} [Scalar α]

theorem ramp_target (s : Speed α) (dt : α) : (s.ramp dt).target = s.target := by
  unfold ramp
  split
  · rfl
  · dsimp only
    split
    · rfl
    · rfl

theorem advance_target (s : Speed α) (dt limit : α) : (s.advance dt limit).2.target = s.target :=
  s.ramp_target dt

end

variable {K : Type} [Field K] [LinearOrder K] [IsStrictOrderedRing K] [Scalar K] [ExactScalar K]

/-- The speed keeps to a limit, and so does what it makes for to zero. -/
structure Bounded (limit : K) (s : Speed K) : Prop where
  current_nonneg : 0 ≤ s.current
  current_le : s.current ≤ limit
  target_nonneg : 0 ≤ s.target

omit [IsStrictOrderedRing K] [Scalar K] [ExactScalar K] in
theorem Bounded.limit_nonneg {limit : K} {s : Speed K} (h : s.Bounded limit) : 0 ≤ limit :=
  le_trans h.current_nonneg h.current_le

theorem bounded_stopped {limit : K} (h : 0 ≤ limit) : Bounded limit stopped := by
  have hzero : (@OfNat.ofNat K 0 (Scalar.instOfNat 0)) = 0 := by
    rw [scalar_ofNat_eq, Nat.cast_zero]
  exact ⟨hzero.ge, hzero.le.trans h, hzero.ge⟩

omit [IsStrictOrderedRing K] [ExactScalar K] in
theorem bounded_steady {speed : K} (h : 0 ≤ speed) : Bounded speed (steady speed) :=
  ⟨h, le_refl speed, h⟩

/-- A new target leaves the speed as it is and is not below zero. -/
theorem Bounded.aim {limit limit' : K} {s : Speed K} (h : s.Bounded limit)
    (hlimit : s.current ≤ limit') (target deceleration acceleration : K) :
    (s.aim target deceleration acceleration).Bounded limit' := by
  refine ⟨h.current_nonneg, hlimit, ?_⟩
  show 0 ≤ Scalar.max target (@OfNat.ofNat K 0 (Scalar.instOfNat 0))
  rw [scalar_max_eq, scalar_ofNat_eq, Nat.cast_zero]
  exact le_max_right target 0

/-- The speed after some time is the one of the ramp, held between zero and the limit. -/
theorem advance_current {limit : K} (h : 0 ≤ limit) (s : Speed K) (dt : K) :
    (s.advance dt limit).2.current = Scalar.clampTo 0 limit (s.ramp dt).current := by
  show Scalar.clampTo (@OfNat.ofNat K 0 (Scalar.instOfNat 0)) (Scalar.max limit _) _ = _
  rw [scalar_max_eq, scalar_ofNat_eq, Nat.cast_zero, max_eq_left h]

theorem Bounded.advance {limit : K} {s : Speed K} (h : s.Bounded limit) (dt : K) :
    (s.advance dt limit).2.Bounded limit := by
  have hheld := clampTo_mem h.limit_nonneg (s.ramp dt).current
  rw [← advance_current h.limit_nonneg] at hheld
  exact ⟨hheld.1, hheld.2, (s.advance_target dt limit).symm ▸ h.target_nonneg⟩

/-- To be held at the limit takes away no speed that the ramp does not take. -/
theorem Bounded.advance_loses {limit : K} {s : Speed K} (h : s.Bounded limit) (dt : K) :
    min s.current (s.ramp dt).current ≤ (s.advance dt limit).2.current := by
  rw [advance_current h.limit_nonneg]
  exact le_trans (min_le_min_right _ h.current_le) (min_le_clampTo 0 limit _)

/-- A vehicle drives as far as it would at the mean of the speeds before and after. -/
theorem advance_distance (s : Speed K) (dt limit : K) :
    (s.advance dt limit).1 =
      (1 : Nat) / (2 : Nat) * (s.current + (s.advance dt limit).2.current) * dt := by
  unfold Speed.advance
  simp only [scalar_mul_eq, scalar_div_eq, scalar_add_eq, scalar_ofNat_eq]

/-- A vehicle does not drive backwards. -/
theorem Bounded.distance_nonneg {limit dt : K} {s : Speed K} (h : s.Bounded limit) (hdt : 0 ≤ dt) :
    0 ≤ (s.advance dt limit).1 := by
  have hbefore := h.current_nonneg
  have hnow := (h.advance dt).current_nonneg
  rw [advance_distance]
  positivity

end Speed

namespace Settings

variable {K : Type} [Field K] [LinearOrder K] [IsStrictOrderedRing K] [Scalar K] [ExactScalar K]

/-- Settings that are accepted and give no vehicle a speed below zero. -/
structure Moderate (s : Settings K) : Prop where
  check : s.check = .ok ()
  variation_nonneg : 0 ≤ s.speedVariation
  variation_le : s.speedVariation ≤ (2 : Nat)
  bonus : -s.maxSpeed ≤ s.fastLaneBonus

theorem Moderate.maxSpeed_pos {s : Settings K} (hs : s.Moderate) : 0 < s.maxSpeed := by
  have hpositive := positives_of_check hs.check (.maxSpeed, s.maxSpeed) (by simp [positives])
  rwa [scalar_lt_iff, scalar_ofNat_eq, Nat.cast_zero] at hpositive

end Settings

/-! ## What the operations do to the speeds of a vehicle -/

namespace Vehicle

section

variable {α ρ : Type} [Scalar α] {m : RoadMap α} {s : Settings α} {v v' : Vehicle α ρ}

/-- The vehicle drives as before and may drive as fast as before. -/
structure KeepsSpeeds (v v' : Vehicle α ρ) : Prop where
  speed : v'.speed = v.speed
  maxSpeed : v'.maxSpeed = v.maxSpeed
  initialMaxSpeed : v'.initialMaxSpeed = v.initialMaxSpeed

/-- The vehicle has been given a speed, and drives it. -/
structure Given (given : α) (v : Vehicle α ρ) : Prop where
  speed : v.speed = .steady given
  maxSpeed : v.maxSpeed = given
  initialMaxSpeed : v.initialMaxSpeed = given

/-- The limit of a vehicle that sees something ahead is the speed that it was given, unless it
follows another vehicle. Then it may drive as fast as that one, and as fast as it does. -/
def IsLimit (v : Vehicle α ρ) (limit : α) : Prop :=
  limit = v.initialMaxSpeed ∨
    ∃ speed, limit = Scalar.min (Scalar.max speed v.speed.current) v.initialMaxSpeed

theorem choiceForVehicle_isLimit (other : Snapshot α) (gap : α) :
    v.IsLimit (v.choiceForVehicle other gap).maxSpeed := by
  rw [choiceForVehicle_maxSpeed]
  split
  · exact Or.inr ⟨other.speed, rfl⟩
  · exact Or.inl rfl

theorem choose_isLimit (vehicle : Option (Snapshot α × α)) (player : Option (α × α)) :
    v.IsLimit (v.choose vehicle player).maxSpeed := by
  unfold choose
  dsimp only
  split
  · exact Or.inl rfl
  · split
    · exact Or.inl rfl
    · exact Or.inl (choiceBehind_maxSpeed _ _)
  · split
    · exact Or.inl rfl
    · exact choiceForVehicle_isLimit _ _
  · split
    · exact Or.inl rfl
    split
    · exact Or.inl (choiceBehind_maxSpeed _ _)
    · exact choiceForVehicle_isLimit _ _

/-- The vehicle makes for another speed. -/
def Aims (v v' : Vehicle α ρ) : Prop :=
  ∃ target deceleration acceleration, v'.speed = v.speed.aim target deceleration acceleration

theorem heed_aims (outlook : Outlook α) (player : Option (α × α)) :
    Aims v (v.heed outlook player) := ⟨_, _, _, rfl⟩

variable [RandomSource ρ]

/-- A vehicle that is placed keeps its speed, or is given one if it is to be renewed. -/
theorem place_speeds {point : PointId} {now : Millis} {renewed : Bool}
    {outcome : Except DeadEnd Unit} (h : Answers (v.place m s point now renewed) (outcome, v')) :
    KeepsSpeeds v v' ∨ renewed = true ∧ ∃ factor, ∃ random rest : ρ,
      speedFactor s.speedVariation random = .ok (factor, rest) ∧
      Given (baseSpeed m s point * factor) v' := by
  rcases place_ends h with ⟨walker, -, -, rfl⟩ | ⟨next, walker, u, -, -, hu, hsettle⟩
  · exact Or.inl ⟨rfl, rfl, rfl⟩
  obtain ⟨protectedUntil, random, safetyDistanceSquared, rfl⟩ := settle_changes hsettle
  rcases hu with ⟨hrenewed, hrenew⟩ | ⟨-, rfl⟩
  · obtain ⟨factor, rest, random', status, hfactor, rfl⟩ := renew_changes hrenew
    exact Or.inr ⟨hrenewed, factor, _, rest, hfactor, rfl, rfl, rfl⟩
  · exact Or.inl ⟨rfl, rfl, rfl⟩

/-- A vehicle that is moved on drives as it does when it departs, also where it is placed anew. -/
theorem update_speeds {now : Millis} {outcome : Except DeadEnd Unit}
    (h : Answers (v.update m s now) (outcome, v')) : v' = v ∨ KeepsSpeeds (v.depart now) v' := by
  rcases update_cases h with ⟨-, rfl⟩ | ⟨u, hu, hend⟩
  · exact Or.inl rfl
  right
  obtain ⟨segment, progress, walker, signal, rfl⟩ := passes_changes hu
  rcases hend with rfl | hplace
  · exact ⟨rfl, rfl, rfl⟩
  · rcases place_speeds hplace with hkeeps | ⟨hrenewed, -⟩
    · exact ⟨hkeeps.speed, hkeeps.maxSpeed, hkeeps.initialMaxSpeed⟩
    · cases hrenewed

/-- A vehicle that looks out makes for another speed and keeps its limit or chooses one. -/
theorem lookOut_speeds {around : Surroundings α} {now : Millis}
    (h : Answers (v.lookOut m s around now) v') :
    v' = v ∨ Aims v v' ∧ v'.initialMaxSpeed = v.initialMaxSpeed ∧
      (v'.maxSpeed = v.maxSpeed ∨ v.IsLimit v'.maxSpeed) := by
  by_cases hlooks : v.placed = true ∧ ¬ now < v.wait.ignoresUntil
  · right
    rw [lookOut_eq hlooks.1 hlooks.2] at h
    obtain ⟨u, hu, h⟩ := answers_bind h
    obtain ⟨random, wait, rfl⟩ := watchWait_cases hu
    obtain ⟨walker, signal, hlook⟩ := lookAhead_changes (m := m) around.vehicles
      { v with random, wait }
    rw [answers_pure h, hlook]
    exact ⟨heed_aims _ _, rfl, Or.inr (choose_isLimit _ _)⟩
  · rcases lookOut_away hlooks h with rfl | rfl
    · exact Or.inl rfl
    · exact Or.inr ⟨⟨_, _, _, rfl⟩, rfl, Or.inl rfl⟩

/-! ## Vehicles that anything may happen to -/

/-- A vehicle that came about. It has been placed, moved on, let look out, given speeds and taken
off the road in any order and at any times, and went on wherever that failed. -/
inductive Arises (m : RoadMap α) (s : Settings α) : Vehicle α ρ → Prop
  | begins (id : VehicleId) (profile : Profile α) (seed : UInt64) :
    Arises m s (.new id profile s seed)
  | placed {v v' : Vehicle α ρ} {point : PointId} {now : Millis} {renewed : Bool}
    {outcome : Except DeadEnd Unit} (hv : Arises m s v)
    (h : Answers (v.place m s point now renewed) (outcome, v')) : Arises m s v'
  | moved {v v' : Vehicle α ρ} {now : Millis} {outcome : Except DeadEnd Unit} (hv : Arises m s v)
    (h : Answers (v.update m s now) (outcome, v')) : Arises m s v'
  | lookedOut {v v' : Vehicle α ρ} {around : Surroundings α} {now : Millis} (hv : Arises m s v)
    (h : Answers (v.lookOut m s around now) v') : Arises m s v'
  | aimed {v : Vehicle α ρ} (hv : Arises m s v) (target deceleration acceleration : α) :
    Arises m s (v.aim target deceleration acceleration)
  | removed {v : Vehicle α ρ} (hv : Arises m s v) : Arises m s v.remove

end

variable {K ρ : Type} [Field K] [LinearOrder K] [IsStrictOrderedRing K] [Scalar K] [ExactScalar K]
  [RandomSource ρ] {m : RoadMap K} {s : Settings K} {v v' : Vehicle K ρ}

/-- The speeds of a vehicle are in order. -/
structure Bounded (v : Vehicle K ρ) : Prop where
  speed : v.speed.Bounded v.maxSpeed
  maxSpeed : v.maxSpeed ≤ v.initialMaxSpeed

theorem baseSpeed_nonneg (hs : s.Moderate) (m : RoadMap K) (point : PointId) :
    0 ≤ baseSpeed m s point := by
  have hmax := hs.maxSpeed_pos
  have hbonus := hs.bonus
  have hlane : ∀ isFast : Bool, 0 ≤ s.maxSpeed + if isFast then s.fastLaneBonus else 0 := by
    intro isFast
    split
    · linarith
    · linarith
  unfold baseSpeed
  rw [scalar_add_eq, scalar_ofNat_eq, Nat.cast_zero]
  exact hlane _

/-- The random factor deviates from one by at most one. -/
theorem speedFactor_nonneg (hs : s.Moderate) {random random' : ρ} {factor : K}
    (h : speedFactor s.speedVariation random = .ok (factor, random')) : 0 ≤ factor := by
  unfold speedFactor at h
  dsimp only at h
  split at h
  · next hrange =>
    cases h
    rw [scalar_le_iff] at hrange
    refine le_trans ?_ (clampTo_mem hrange _).1
    have htwo : (0 : K) < (2 : Nat) := Nat.cast_pos.mpr Nat.two_pos
    simp only [scalar_sub_eq, scalar_mul_eq, scalar_div_eq, scalar_ofNat_eq]
    rw [Nat.cast_one, sub_nonneg, one_div_mul_eq_div, div_le_one htwo]
    exact hs.variation_le
  · cases h

/-! ## Every operation keeps the speeds in order -/

omit [IsStrictOrderedRing K] [Scalar K] [ExactScalar K] [RandomSource ρ] in
theorem Bounded.keeps (h : v.Bounded) (hkeeps : KeepsSpeeds v v') : v'.Bounded := by
  refine ⟨?_, ?_⟩
  · rw [hkeeps.speed, hkeeps.maxSpeed]
    exact h.speed
  · rw [hkeeps.maxSpeed, hkeeps.initialMaxSpeed]
    exact h.maxSpeed

omit [IsStrictOrderedRing K] [ExactScalar K] [RandomSource ρ] in
theorem Given.bounded {given : K} (h : Given given v) (hgiven : 0 ≤ given) : v.Bounded := by
  refine ⟨?_, ?_⟩
  · rw [h.speed, h.maxSpeed]
    exact Speed.bounded_steady hgiven
  · rw [h.maxSpeed, h.initialMaxSpeed]

omit [RandomSource ρ] in
/-- A limit that a vehicle chooses is not above the speed that it was given, and leaves it the speed
that it drives. -/
theorem IsLimit.bounds {limit : K} (h : v.IsLimit limit) (hv : v.Bounded) :
    v.speed.current ≤ limit ∧ limit ≤ v.initialMaxSpeed := by
  have hdrives := le_trans hv.speed.current_le hv.maxSpeed
  rcases h with rfl | ⟨speed, rfl⟩
  · exact ⟨hdrives, le_refl _⟩
  · rw [scalar_min_eq, scalar_max_eq]
    exact ⟨le_min (le_max_right _ _) hdrives, min_le_right _ _⟩

theorem place_bounded (hs : s.Moderate) (hv : v.Bounded) {point : PointId} {now : Millis}
    {renewed : Bool} {outcome : Except DeadEnd Unit}
    (h : Answers (v.place m s point now renewed) (outcome, v')) : v'.Bounded := by
  rcases place_speeds h with hkeeps | ⟨-, factor, random, random', hfactor, hgiven⟩
  · exact hv.keeps hkeeps
  · refine hgiven.bounded ?_
    rw [scalar_mul_eq]
    exact mul_nonneg (baseSpeed_nonneg hs m point) (speedFactor_nonneg hs hfactor)

omit [RandomSource ρ] in
theorem depart_bounded (hv : v.Bounded) (now : Millis) : (v.depart now).Bounded :=
  ⟨hv.speed.advance _, hv.maxSpeed⟩

theorem update_bounded (hv : v.Bounded) {now : Millis} {outcome : Except DeadEnd Unit}
    (h : Answers (v.update m s now) (outcome, v')) : v'.Bounded := by
  rcases update_speeds h with rfl | hkeeps
  · exact hv
  · exact (depart_bounded hv now).keeps hkeeps

theorem lookOut_bounded (hv : v.Bounded) {around : Surroundings K} {now : Millis}
    (h : Answers (v.lookOut m s around now) v') : v'.Bounded := by
  rcases lookOut_speeds h with rfl | ⟨⟨target, deceleration, acceleration, haims⟩, hinitial, hmax⟩
  · exact hv
  have hbounds : v.speed.current ≤ v'.maxSpeed ∧ v'.maxSpeed ≤ v.initialMaxSpeed := by
    rcases hmax with hsame | hlimit
    · rw [hsame]
      exact ⟨hv.speed.current_le, hv.maxSpeed⟩
    · exact hlimit.bounds hv
  refine ⟨?_, hinitial.symm ▸ hbounds.2⟩
  rw [haims]
  exact hv.speed.aim hbounds.1 target deceleration acceleration

theorem Arises.bounded (hs : s.Moderate) (h : Arises m s v) : v.Bounded := by
  induction h with
  | begins id profile seed => exact ⟨Speed.bounded_stopped hs.maxSpeed_pos.le, le_refl s.maxSpeed⟩
  | placed _ h ih => exact place_bounded hs ih h
  | moved _ h ih => exact update_bounded ih h
  | lookedOut _ h ih => exact lookOut_bounded ih h
  | aimed _ target deceleration acceleration ih =>
    exact ⟨ih.speed.aim ih.speed.current_le target deceleration acceleration, ih.maxSpeed⟩
  | removed _ ih => exact ⟨Speed.bounded_stopped ih.speed.limit_nonneg, ih.maxSpeed⟩

/-- **Speeds stay in order.** Whatever is done to a vehicle in whatever sequence, it drives no less
than nothing and no more than it may, it may drive no more than it was given, and it makes for no
speed below zero. So when it looks out and its limit is lowered, it keeps the speed that it drives,
and moving on at this limit takes away no speed that the ramp to the target does not take. -/
theorem Arises.speeds_in_order (hs : s.Moderate) (h : Arises m s v) :
    0 ≤ v.speed.current ∧ v.speed.current ≤ v.maxSpeed ∧ v.maxSpeed ≤ v.initialMaxSpeed ∧
      0 ≤ v.speed.target ∧
      ∀ around now v', Answers (v.lookOut m s around now) v' →
        v'.speed.current = v.speed.current ∧
        ∀ dt, min v.speed.current (v'.speed.ramp dt).current ≤
          (v'.speed.advance dt v'.maxSpeed).2.current := by
  have hv := h.bounded hs
  refine ⟨hv.speed.current_nonneg, hv.speed.current_le, hv.maxSpeed, hv.speed.target_nonneg,
    fun around now v' hlook => ?_⟩
  have hkept : v'.speed.current = v.speed.current := by
    rcases lookOut_speeds hlook with rfl | ⟨⟨target, deceleration, acceleration, haims⟩, -⟩
    · rfl
    · rw [haims]
      rfl
  refine ⟨hkept, fun dt => ?_⟩
  rw [← hkept]
  exact (lookOut_bounded hv hlook).speed.advance_loses dt

private def placingOnLane :
    Logged Rat (Except DeadEnd Unit × Vehicle Rat (Tape fun _ _ => 0)) :=
  (Vehicle.new ⟨SlotKey.nth 0, 0⟩ Settings.standard.profile .standard 0).place sideBySide .standard
    ⟨0⟩ 0 false

/-- What comes of a vehicle that is placed on the lane without a speed. -/
private def standingOnLane : Except DeadEnd Unit × Vehicle Rat (Tape fun _ _ => 0) :=
  answerOf placingOnLane (by decide +kernel)

/-- A vehicle that drives some way ahead on the same lane. -/
private def slowAhead : Snapshot Rat :=
  ⟨⟨SlotKey.nth 0, 1⟩, ⟨0⟩, ⟨0, 0, 40⟩, 5, 5, 2, 25⟩

/-- The vehicle when it has looked out behind the other one and when it has driven for a second. -/
private def settingOffBehind :
    Logged Rat (Vehicle Rat (Tape fun _ _ => 0) × Vehicle Rat (Tape fun _ _ => 0)) := do
  let v ← standingOnLane.2.lookOutBehind .standard slowAhead 0
  let (_, v') ← v.update sideBySide .standard 1000
  return (v, v')

private def offBehind : Vehicle Rat (Tape fun _ _ => 0) × Vehicle Rat (Tape fun _ _ => 0) :=
  answerOf settingOffBehind (by decide +kernel)

/-- A vehicle that sets off behind a slow one may drive as fast as that one, and gets there in its
own time. -/
theorem speeds_behind_slow_vehicle :
    Arises sideBySide .standard offBehind.2 ∧
      offBehind.2.maxSpeed = 5 ∧ offBehind.2.initialMaxSpeed = 80 / (36 / 10) ∧
      offBehind.2.speed.current = 25 / 10 ∧ 0 ≤ offBehind.2.speed.current ∧
      offBehind.2.speed.current ≤ offBehind.2.maxSpeed ∧
      offBehind.2.maxSpeed ≤ offBehind.2.initialMaxSpeed := by
  have hs : (Settings.standard : Settings Rat).Moderate :=
    ⟨by decide +kernel, by decide +kernel, by decide +kernel, by decide +kernel⟩
  have hplaced : Arises sideBySide .standard standingOnLane.2 :=
    .placed (.begins ⟨SlotKey.nth 0, 0⟩ _ 0) (answers_lift (answers_answerOf _))
  obtain ⟨v, hv, hrest⟩ :=
    answers_bind (answers_answerOf (x := settingOffBehind) (by decide +kernel))
  obtain ⟨⟨outcome, v'⟩, hv', hrest⟩ := answers_bind hrest
  have hlook : Answers
      (standingOnLane.2.lookOut sideBySide .standard ⟨.ofList [slowAhead], []⟩ 0) v := by
    rw [lookOut_behind (by decide +kernel)]
    exact answers_lift hv
  have harises : Arises sideBySide .standard offBehind.2 := by
    rw [show offBehind = (v, v') from answers_pure hrest]
    exact (hplaced.lookedOut hlook).moved hv'
  obtain ⟨hstanding, hdrives, hlimit, -⟩ := harises.speeds_in_order hs
  exact ⟨harises, by decide +kernel, by decide +kernel, by decide +kernel, hstanding, hdrives,
    hlimit⟩

end Vehicle

end RoadTraffic
