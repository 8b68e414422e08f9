import RoadTraffic.Proofs.Journal.Answers
import RoadTraffic.Vehicle.Caution
import RoadTraffic.Vehicle.Motion

/-!
# A vehicle keeps its profile

Nothing that happens to a vehicle changes the profile that it drives with: not its motion
(`update_profile`), not its choice of a target speed (`lookOut_profile`), not its being placed
(`place_profile`). Whoever knows the profile of a slot's car therefore knows that of all vehicles
that the slot ever had.
-/

namespace RoadTraffic

namespace Vehicle

variable {α ρ : Type} [Scalar α] {m : RoadMap α} {s : Settings α}

/-! ## Motion -/

variable [RandomSource ρ]

/-- A vehicle that is renewed drives at a speed of its own, and may have another colour. -/
theorem renew_changes {point : PointId} {v v' : Vehicle α ρ}
    (h : Answers (v.renew m s point) v') :
    ∃ factor rest random status, speedFactor s.speedVariation v.random = .ok (factor, rest) ∧
      v' = { v with
        maxSpeed := baseSpeed m s point * factor
        initialMaxSpeed := baseSpeed m s point * factor
        speed := .steady (baseSpeed m s point * factor)
        random, status } := by
  unfold renew at h
  obtain ⟨⟨factor, rest⟩, hfactor, h⟩ := answers_bind h
  dsimp only at h
  split at h
  · exact ⟨factor, rest, _, _, hfactor, answers_pure h⟩
  · exact ⟨factor, rest, rest, v.status, hfactor, answers_pure h⟩

/-- What belongs to an earlier place is forgotten, some of it for a draw. -/
theorem settle_changes {now : Millis} {v v' : Vehicle α ρ} (h : Answers (v.settle m s now) v') :
    ∃ protectedUntil random safetyDistanceSquared, v' = Vehicle.report m s now { v with
      protectedUntil, random, safetyDistanceSquared
      obstacleDistance := s.obstacleDistance
      wait := .over
      signal := .off
      placed := true
      lastMoved := now } := by
  unfold settle at h
  obtain ⟨protectedUntil, -, h⟩ := answers_bind h
  obtain ⟨⟨safetyDistance, random⟩, -, h⟩ := answers_bind h
  exact ⟨protectedUntil, random, _, answers_pure h⟩

/-- A vehicle whose walker goes nowhere from the point only forgets its route. Any other one enters
the segment that begins there, is renewed if it is to be, and settles. -/
theorem place_ends {point : PointId} {now : Millis} {renewed : Bool} {v v' : Vehicle α ρ}
    {outcome : Except DeadEnd Unit} (h : Answers (v.place m s point now renewed) (outcome, v')) :
    (∃ walker, v.walker.clear.tryNext m point = (none, walker) ∧ outcome = .error ⟨point⟩ ∧
        v' = { v with walker }) ∨
      ∃ next walker, ∃ u : Vehicle α ρ, v.walker.clear.tryNext m point = (some next, walker) ∧
        outcome = .ok () ∧
        (renewed = true ∧ Answers (Vehicle.renew m s point
            ((enter m point next { v with progress := 0, walker }).fitTangents m)) u ∨
          renewed = false ∧
            u = (enter m point next { v with progress := 0, walker }).fitTangents m) ∧
        Answers (u.settle m s now) v' := by
  unfold place at h
  obtain ⟨-, -, h⟩ := answers_bind h
  split at h
  · next walker hnone =>
    cases answers_pure h
    exact Or.inl ⟨walker, hnone, rfl, rfl⟩
  · next next walker hnext =>
    right
    dsimp only at h
    split at h
    · next hrenewed =>
      obtain ⟨u, hu, h⟩ := answers_bind h
      obtain ⟨w, hw, h⟩ := answers_bind h
      cases answers_pure h
      exact ⟨next, walker, u, hnext, rfl, Or.inl ⟨hrenewed, hu⟩, hw⟩
    · next hkept =>
      obtain ⟨u, hu, h⟩ := answers_bind h
      obtain ⟨w, hw, h⟩ := answers_bind h
      cases answers_pure h
      exact ⟨next, walker, u, hnext, rfl,
        Or.inr ⟨Bool.eq_false_iff.mpr hkept, answers_pure hu⟩, hw⟩

/-- Placing a vehicle keeps its profile, also where it cannot be placed. -/
theorem place_profile {point : PointId} {now : Millis} {renewed : Bool} {v v' : Vehicle α ρ}
    {outcome : Except DeadEnd Unit} (h : Answers (v.place m s point now renewed) (outcome, v')) :
    v'.profile = v.profile := by
  rcases place_ends h with ⟨walker, -, -, rfl⟩ | ⟨next, walker, u, -, -, hu, hsettle⟩
  · rfl
  obtain ⟨protectedUntil, random, safetyDistanceSquared, rfl⟩ := settle_changes hsettle
  rcases hu with ⟨-, hrenew⟩ | ⟨-, rfl⟩
  · obtain ⟨factor, rest, random', status, -, rfl⟩ := renew_changes hrenew
    rfl
  · rfl

/-- Passing a point changes nothing but the route and the signal, and the walker is asked about one
junction at most. -/
theorem passSignal_changes {v : Vehicle α ρ} (point : PointId) :
    ∃ walker signal, v.passSignal m point = { v with walker, signal } ∧
      (walker = v.walker ∨ ∃ j, walker = (v.walker.takes m j).2) := by
  unfold passSignal
  split
  · dsimp only
    split
    · exact ⟨v.walker, _, rfl, Or.inl rfl⟩
    · exact ⟨v.walker, _, rfl, Or.inl rfl⟩
  · split
    · exact ⟨v.walker, v.signal, rfl, Or.inl rfl⟩
    · next j _ =>
      refine ⟨(v.walker.takes m j).2, ?_⟩
      generalize hdecision : v.walker.takes m j = decision
      rcases decision with ⟨taken, walker⟩
      dsimp only
      generalize (if taken = true then some (m.junction j).finish
        else (m.point (m.junction j).start).next) = exit
      have hasked : walker = (v.walker.takes m j).2 := by rw [hdecision]
      split
      · exact ⟨_, rfl, Or.inr ⟨j, hasked⟩⟩
      · exact ⟨v.signal, rfl, Or.inr ⟨j, hasked⟩⟩

theorem passSignal_profile {point : PointId} {v : Vehicle α ρ} :
    (v.passSignal m point).profile = v.profile := by
  obtain ⟨walker, signal, hsignal, -⟩ := passSignal_changes (m := m) (v := v) point
  rw [hsignal]

/-- The vehicle that a drive comes out with. -/
def Drive.vehicle : Drive α ρ → Vehicle α ρ
  | .onSegment v => v
  | .atDeadEnd v => v

theorem drive_profile {limit : Nat} {v : Vehicle α ρ} {d : Drive α ρ}
    (h : Answers (v.drive m limit) d) : d.vehicle.profile = v.profile := by
  induction limit generalizing v with
  | zero => cases h
  | succ limit ih =>
    unfold drive at h
    split at h
    · dsimp only at h
      split at h
      · cases h
        rfl
      · exact (ih h).trans passSignal_profile
    · cases h
      rfl

/-- A vehicle that moves on keeps its profile. -/
theorem update_profile {now : Millis} {v v' : Vehicle α ρ} {outcome : Except DeadEnd Unit}
    (h : Answers (v.update m s now) (outcome, v')) : v'.profile = v.profile := by
  unfold update at h
  split at h
  · obtain ⟨d, hd, h⟩ := answers_bind h
    have hdrive := drive_profile (answers_lift hd)
    split at h
    · cases answers_pure h
      exact hdrive
    · obtain ⟨-, -, h⟩ := answers_bind h
      rw [place_profile (answers_lift h)]
      exact hdrive
  · cases answers_pure h
    rfl

/-! ## Choice of a target speed -/

/-- Keeping count of a wait takes random words, and changes nothing but the wait. -/
theorem watchWait_cases {now : Millis} {v v' : Vehicle α ρ}
    (h : Answers (v.watchWait s now) v') : ∃ random wait, v' = { v with random, wait } := by
  unfold watchWait at h
  split at h
  · exact ⟨v.random, _, answers_pure h⟩
  · dsimp only at h
    split at h
    all_goals
      obtain ⟨⟨horn, random⟩, -, h⟩ := answers_bind h
      obtain ⟨waited, -, h⟩ := answers_bind h
      split at h
      · obtain ⟨ignoresUntil, -, h⟩ := answers_bind h
        exact ⟨random, _, answers_pure h⟩
      · exact ⟨random, _, answers_pure h⟩

theorem signalFor_changes {v : Vehicle α ρ} (point : PointId) (ahead : α) :
    ∃ walker signal, v.signalFor m point ahead = { v with walker, signal } := by
  unfold signalFor
  split
  · exact ⟨v.walker, v.signal, rfl⟩
  · dsimp only
    split
    · exact ⟨_, _, rfl⟩
    · exact ⟨v.walker, v.signal, rfl⟩

/-- Looking ahead changes nothing but the route and the signal. -/
theorem lookFrom_changes (vehicles : Occupancy α) (reach : α) (points : Nat)
    (point : PointId) (ahead bendSpeed : α) (v : Vehicle α ρ) :
    ∃ walker signal, (lookFrom m vehicles reach points point ahead bendSpeed v).2 =
      { v with walker, signal } := by
  induction points generalizing point ahead bendSpeed v with
  | zero => exact ⟨v.walker, v.signal, rfl⟩
  | succ points ih =>
    unfold lookFrom
    split
    · exact ⟨v.walker, v.signal, rfl⟩
    split
    · exact ⟨v.walker, v.signal, rfl⟩
    obtain ⟨walker, signal, hsignal⟩ := signalFor_changes (m := m) (v := v) point ahead
    dsimp only
    split
    · next walker' _ => exact ⟨walker', signal, by rw [hsignal]⟩
    · next next walker' _ =>
      obtain ⟨walker'', signal', hrest⟩ := ih next (ahead + m.distance point next)
        (v.bendLimit m point ahead bendSpeed) { v.signalFor m point ahead with walker := walker' }
      exact ⟨walker'', signal', by rw [hrest, hsignal]⟩

theorem lookAhead_changes (vehicles : Occupancy α) (v : Vehicle α ρ) :
    ∃ walker signal, (v.lookAhead m vehicles).2 = { v with walker, signal } := by
  unfold lookAhead
  exact lookFrom_changes vehicles _ _ _ _ _ v

/-- A vehicle that looks at the road waits, looks ahead and heeds what it sees. -/
theorem lookOut_eq {around : Surroundings α} {now : Millis} {v : Vehicle α ρ}
    (hplaced : v.placed = true) (hpatient : ¬ now < v.wait.ignoresUntil) :
    v.lookOut m s around now = do
      let w ← v.watchWait s now
      let seen := w.lookAhead m around.vehicles
      return seen.2.heed seen.1 (seen.2.playerAhead around.players) := by
  unfold lookOut
  rw [hplaced, if_neg (by decide), if_neg hpatient]

/-- A vehicle that does not look at the road makes for the speed that it is allowed, if it is there
at all. -/
theorem lookOut_away {around : Surroundings α} {now : Millis} {v v' : Vehicle α ρ}
    (haway : ¬ (v.placed = true ∧ ¬ now < v.wait.ignoresUntil))
    (h : Answers (v.lookOut m s around now) v') :
    v' = v ∨ v' = v.aim v.maxSpeed v.profile.deceleration v.profile.acceleration := by
  unfold lookOut at h
  split at h
  · exact Or.inl (answers_pure h)
  next hplaced =>
  split at h
  · exact Or.inr (answers_pure h)
  · next hpatient => exact absurd ⟨by simpa using hplaced, hpatient⟩ haway

/-- Looking out changes nothing but the wait, the route, the signal and two of the speeds. -/
theorem lookOut_changes {around : Surroundings α} {now : Millis} {v v' : Vehicle α ρ}
    (h : Answers (v.lookOut m s around now) v') :
    ∃ random wait walker signal speed maxSpeed,
      v' = { v with random, wait, walker, signal, speed, maxSpeed } := by
  by_cases hlooks : v.placed = true ∧ ¬ now < v.wait.ignoresUntil
  · rw [lookOut_eq hlooks.1 hlooks.2] at h
    obtain ⟨w, hw, h⟩ := answers_bind h
    obtain ⟨random, wait, rfl⟩ := watchWait_cases hw
    obtain ⟨walker, signal, hlook⟩ := lookAhead_changes (m := m) around.vehicles
      { v with random, wait }
    rw [answers_pure h, hlook]
    exact ⟨random, wait, walker, signal, _, _, rfl⟩
  · rcases lookOut_away hlooks h with rfl | rfl
    · exact ⟨_, _, _, _, _, _, rfl⟩
    · exact ⟨_, _, _, _, _, _, rfl⟩

/-- A vehicle that chooses its target speed keeps its profile. -/
theorem lookOut_profile {around : Surroundings α} {now : Millis} {v v' : Vehicle α ρ}
    (h : Answers (v.lookOut m s around now) v') : v'.profile = v.profile := by
  obtain ⟨random, wait, walker, signal, speed, maxSpeed, rfl⟩ := lookOut_changes h
  rfl

end Vehicle

end RoadTraffic
