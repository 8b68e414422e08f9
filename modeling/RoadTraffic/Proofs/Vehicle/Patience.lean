import RoadTraffic.Proofs.Vehicle.InFront
import RoadTraffic.Proofs.Vehicle.Placement
import RoadTraffic.Proofs.Vehicle.Route

/-!
# A vehicle that has lost its patience

A vehicle that has been standing for too long goes ahead for a while whatever is in its way. The
speed that it then makes for is the one that it was allowed when it last looked at the road, in the
very moment in which it lost its patience. So that last glance decides whether the vehicle drives
off at the speed that it was given when it was placed, or stays behind a vehicle that does not move
either (`lookOut_ignoring`).

The proof carries the last glance along the life of a vehicle (`Lives`): as long as a vehicle
ignores obstacles, its speed is the one that the glance left it with (`Lives.lingers`).
-/

namespace RoadTraffic

namespace Vehicle

/-- A look at the road, by a vehicle and at a time. -/
structure Glance (α ρ : Type) where
  vehicle : Vehicle α ρ
  around : Surroundings α
  time : Millis

variable {α ρ : Type} [Scalar α] {m : RoadMap α} {s : Settings α} {around : Surroundings α}
  {now : Millis} {v v' : Vehicle α ρ}

/-- The vehicle has been standing for longer than its patience lasts. -/
def LosesPatience (s : Settings α) (now : Millis) (v : Vehicle α ρ) : Prop :=
  ¬ standingSpeed ≤ v.speed.current ∧
    ∃ since, v.wait.since = some since ∧ s.patience < now - since

variable [RandomSource ρ]

/-! ## What is seen does not depend on the wait -/

theorem signalFor_waiting (point : PointId) (ahead : α) (random : ρ) (wait : Wait) :
    signalFor m point ahead { v with random, wait } =
      { v.signalFor m point ahead with random, wait } := by
  unfold signalFor
  dsimp only
  split
  · rfl
  · split
    · rfl
    · rfl

theorem lookFrom_waiting {vehicles : Occupancy α} {reach : α} {points : Nat}
    {point : PointId} {ahead bendSpeed : α} (random : ρ) (wait : Wait) :
    (lookFrom m vehicles reach points point ahead bendSpeed { v with random, wait }).1 =
      (lookFrom m vehicles reach points point ahead bendSpeed v).1 := by
  induction points generalizing point ahead bendSpeed v with
  | zero => rfl
  | succ points ih =>
    unfold lookFrom
    rw [show seenAt m vehicles { v with random, wait } point = v.seenAt m vehicles point from rfl,
      signalFor_waiting]
    split
    · rfl
    · split
      · rfl
      · dsimp only
        generalize (v.signalFor m point ahead).walker.tryNext m point = step
        rcases step with ⟨_ | next, walker⟩
        · rfl
        · exact ih (v := { v.signalFor m point ahead with walker })

/-! ## What a glance leaves the vehicle with -/

/-- What a vehicle chooses when it looks at the road. -/
def choiceAt (m : RoadMap α) (around : Surroundings α) (v : Vehicle α ρ) : Choice α :=
  v.choose (v.lookAhead m around.vehicles).1.vehicle (v.playerAhead around.players)

/-- The vehicle follows another one that it sees ahead: there is room between them and no player
nearer, and the other one does not slow down. -/
def Trails (m : RoadMap α) (around : Surroundings α) (v : Vehicle α ρ) (other : Snapshot α) :
    Prop :=
  ∃ gap, (v.lookAhead m around.vehicles).1.vehicle = some (other, gap) ∧ ¬ v.isBlocked gap ∧
    (∀ speed playerGap, v.playerAhead around.players = some (speed, playerGap) →
      ¬ v.isBlocked playerGap ∧ ¬ playerGap < gap) ∧
    other.speed ≤ other.targetSpeed

omit [RandomSource ρ] in
theorem choiceBehind_maxSpeed (speed gap : α) :
    (v.choiceBehind speed gap).maxSpeed = v.initialMaxSpeed := by
  unfold choiceBehind
  split
  · rfl
  · rfl

omit [RandomSource ρ] in
theorem choiceForVehicle_maxSpeed (other : Snapshot α) (gap : α) :
    (v.choiceForVehicle other gap).maxSpeed =
      if other.speed ≤ other.targetSpeed then
        Scalar.min (Scalar.max other.speed v.speed.current) v.initialMaxSpeed
      else v.initialMaxSpeed := by
  unfold choiceForVehicle
  dsimp only
  split
  · rfl
  · exact choiceBehind_maxSpeed _ _

/-- A vehicle that follows another one does not get faster than that one. -/
theorem choiceAt_maxSpeed_of_trails {other : Snapshot α} (h : v.Trails m around other) :
    (v.choiceAt m around).maxSpeed =
      Scalar.min (Scalar.max other.speed v.speed.current) v.initialMaxSpeed := by
  obtain ⟨gap, hseen, hfree, hplayer, hsteady⟩ := h
  have hvehicle : (v.choiceForVehicle other gap).maxSpeed =
      Scalar.min (Scalar.max other.speed v.speed.current) v.initialMaxSpeed := by
    rw [choiceForVehicle_maxSpeed, if_pos hsteady]
  unfold choiceAt choose
  rw [hseen]
  rcases hahead : v.playerAhead around.players with _ | ⟨speed, playerGap⟩
  · dsimp only
    rw [if_neg hfree]
    exact hvehicle
  · obtain ⟨hplayerFree, hnearer⟩ := hplayer speed playerGap hahead
    dsimp only
    rw [if_neg (not_or.mpr ⟨hfree, hplayerFree⟩), if_neg hnearer]
    exact hvehicle

/-- A vehicle that follows no other one is allowed the speed that it was given. -/
theorem choiceAt_maxSpeed_of_not_trails (h : ∀ other, ¬ v.Trails m around other) :
    (v.choiceAt m around).maxSpeed = v.initialMaxSpeed := by
  unfold choiceAt choose
  rcases hseen : (v.lookAhead m around.vehicles).1.vehicle with _ | ⟨other, gap⟩ <;>
    rcases hahead : v.playerAhead around.players with _ | ⟨speed, playerGap⟩
  · rfl
  · dsimp only
    split
    · rfl
    · exact choiceBehind_maxSpeed _ _
  · dsimp only
    split
    · rfl
    · next hfree =>
      have hslowing : ¬ other.speed ≤ other.targetSpeed :=
        fun hsteady => h other ⟨gap, hseen, hfree, by simp [hahead], hsteady⟩
      rw [choiceForVehicle_maxSpeed, if_neg hslowing]
  · dsimp only
    split
    · rfl
    next hfree =>
    obtain ⟨hfree, hplayerFree⟩ := not_or.mp hfree
    split
    · exact choiceBehind_maxSpeed _ _
    · next hnearer =>
      have hslowing : ¬ other.speed ≤ other.targetSpeed := fun hsteady =>
        h other ⟨gap, hseen, hfree, by simp [hahead, hplayerFree, hnearer], hsteady⟩
      rw [choiceForVehicle_maxSpeed, if_neg hslowing]

theorem later_ok {time duration later : Millis}
    (h : Answers (Millis.later time duration) later) : time + duration = later := by
  unfold Millis.later at h
  split at h
  · exact Except.ok.inj h
  · cases h

theorem since_ok {now earlier duration : Millis} (h : Answers (Millis.since now earlier) duration) :
    duration = now - earlier := by
  unfold Millis.since at h
  split at h
  · exact (Except.ok.inj h).symm
  · cases h

omit [RandomSource ρ] in
/-- Who is standing loses its patience if enough time has gone by since it came to stand. -/
theorem losesPatience_iff {waited : Millis} (hstanding : ¬ standingSpeed ≤ v.speed.current)
    (hwaited : waited = now - v.wait.since.getD now) :
    v.LosesPatience s now ↔ s.patience < waited := by
  unfold LosesPatience
  rw [hwaited]
  cases v.wait.since with
  | none => simp
  | some since => simp [hstanding]

/-- A vehicle ignores obstacles from now on if it loses its patience now, and only then. -/
theorem watchWait_ignoresUntil (h : Answers (v.watchWait s now) v') :
    (v.LosesPatience s now ∧ now + ignoringTime = v'.wait.ignoresUntil) ∨
      (¬ v.LosesPatience s now ∧ v'.wait.ignoresUntil = v.wait.ignoresUntil) := by
  unfold watchWait at h
  split at h
  · next hmoving =>
    rw [answers_pure h]
    exact Or.inr ⟨fun hlost => hlost.1 hmoving, rfl⟩
  next hstanding =>
  dsimp only at h
  split at h
  all_goals
    obtain ⟨⟨horn, random⟩, -, h⟩ := answers_bind h
    obtain ⟨waited, hwaited, h⟩ := answers_bind h
    have hiff := losesPatience_iff (s := s) hstanding (since_ok hwaited)
    split at h
    · next hlost =>
      obtain ⟨ignoresUntil, hlater, h⟩ := answers_bind h
      rw [answers_pure h]
      exact Or.inl ⟨hiff.mpr hlost, later_ok hlater⟩
    · next hlost =>
      rw [answers_pure h]
      exact Or.inr ⟨fun hloses => hlost (hiff.mp hloses), rfl⟩

theorem lookOut_looks (hplaced : v.placed = true) (hpatient : ¬ now < v.wait.ignoresUntil)
    (h : Answers (v.lookOut m s around now) v') :
    v'.maxSpeed = (v.choiceAt m around).maxSpeed ∧ v'.initialMaxSpeed = v.initialMaxSpeed ∧
      ((v.LosesPatience s now ∧ now + ignoringTime = v'.wait.ignoresUntil) ∨
        (¬ v.LosesPatience s now ∧ v'.wait.ignoresUntil = v.wait.ignoresUntil)) := by
  rw [lookOut_eq hplaced hpatient] at h
  obtain ⟨w, hw, h⟩ := answers_bind h
  have hwait := watchWait_ignoresUntil hw
  obtain ⟨random, wait, rfl⟩ := watchWait_cases hw
  have hseen : (lookAhead m around.vehicles { v with random, wait }).1 =
      (v.lookAhead m around.vehicles).1 := by
    unfold lookAhead
    exact lookFrom_waiting random wait
  obtain ⟨walker, signal, hlook⟩ := lookAhead_changes (m := m) around.vehicles
    { v with random, wait }
  rw [answers_pure h, hseen, hlook]
  exact ⟨rfl, rfl, hwait⟩

/-! ## What moving leaves alone -/

/-- The speeds that the vehicle is allowed are the same, and so is what it does about its wait. -/
structure KeepsTemper (v v' : Vehicle α ρ) : Prop where
  maxSpeed : v'.maxSpeed = v.maxSpeed
  initialMaxSpeed : v'.initialMaxSpeed = v.initialMaxSpeed
  wait : v'.wait = v.wait

theorem keepsTemper_of_passes (h : Relation.ReflTransGen (Passes m) v v') : KeepsTemper v v' := by
  obtain ⟨segment, progress, walker, signal, rfl⟩ := passes_changes h
  exact ⟨rfl, rfl, rfl⟩

/-- A vehicle that is placed has not waited yet. -/
theorem place_wait {point : PointId} {renewed : Bool} {outcome : Except DeadEnd Unit}
    (h : Answers (v.place m s point now renewed) (outcome, v')) :
    KeepsTemper v v' ∨ v'.wait = .over := by
  rcases place_cases h with ⟨-, walker, rfl⟩ | ⟨rfl, -⟩
  · exact Or.inl ⟨rfl, rfl, rfl⟩
  · exact Or.inr (place_settled h).2.1

/-- A vehicle that moves on waits as before, or is placed again. -/
theorem update_wait {outcome : Except DeadEnd Unit}
    (h : Answers (v.update m s now) (outcome, v')) : KeepsTemper v v' ∨ v'.wait = .over := by
  rcases update_cases h with ⟨-, rfl⟩ | ⟨u, hu, rfl | hplace⟩
  · exact Or.inl ⟨rfl, rfl, rfl⟩
  · have hpasses := keepsTemper_of_passes hu
    exact Or.inl ⟨hpasses.maxSpeed, hpasses.initialMaxSpeed, hpasses.wait⟩
  · have hpasses := keepsTemper_of_passes hu
    rcases place_wait hplace with hkeeps | hover
    · exact Or.inl ⟨hkeeps.maxSpeed.trans hpasses.maxSpeed,
        hkeeps.initialMaxSpeed.trans hpasses.initialMaxSpeed, hkeeps.wait.trans hpasses.wait⟩
    · exact Or.inr hover

/-! ## The life of a vehicle -/

/-- A vehicle that has lived until a time, with its last glance at the road. It has been placed,
moved on, let look out, given speeds and taken off the road in any order, and time has never run
back. -/
inductive Lives (m : RoadMap α) (s : Settings α) :
    Millis → Option (Glance α ρ) → Vehicle α ρ → Prop
  | begins (id : VehicleId) (profile : Profile α) (seed : UInt64) :
    Lives m s 0 none (.new id profile s seed)
  | placed {t now : Millis} {last : Option (Glance α ρ)} {v v' : Vehicle α ρ} {point : PointId}
    {renewed : Bool} {outcome : Except DeadEnd Unit} (hv : Lives m s t last v) (ht : t ≤ now)
    (h : Answers (v.place m s point now renewed) (outcome, v')) : Lives m s now last v'
  | moves {t now : Millis} {last : Option (Glance α ρ)} {v v' : Vehicle α ρ}
    {outcome : Except DeadEnd Unit} (hv : Lives m s t last v) (ht : t ≤ now)
    (h : Answers (v.update m s now) (outcome, v')) : Lives m s now last v'
  | looks {t now : Millis} {last : Option (Glance α ρ)} {v v' : Vehicle α ρ}
    {around : Surroundings α} (hv : Lives m s t last v) (ht : t ≤ now)
    (hlooks : v.placed = true ∧ ¬ now < v.wait.ignoresUntil)
    (h : Answers (v.lookOut m s around now) v') : Lives m s now (some ⟨v, around, now⟩) v'
  | looksAway {t now : Millis} {last : Option (Glance α ρ)} {v v' : Vehicle α ρ}
    {around : Surroundings α} (hv : Lives m s t last v) (ht : t ≤ now)
    (haway : ¬ (v.placed = true ∧ ¬ now < v.wait.ignoresUntil))
    (h : Answers (v.lookOut m s around now) v') : Lives m s now last v'
  | aimed {t : Millis} {last : Option (Glance α ρ)} {v : Vehicle α ρ} (hv : Lives m s t last v)
    (target deceleration acceleration : α) :
    Lives m s t last (v.aim target deceleration acceleration)
  | removed {t : Millis} {last : Option (Glance α ρ)} {v : Vehicle α ρ} (hv : Lives m s t last v) :
    Lives m s t last v.remove

/-- A vehicle that ignores obstacles lost its patience at its last glance, and is allowed what it
chose then. -/
def Lingers (m : RoadMap α) (s : Settings α) (t : Millis) (last : Option (Glance α ρ))
    (v : Vehicle α ρ) : Prop :=
  v.wait.ignoresUntil ≤ t ∨ ∃ g, last = some g ∧ g.vehicle.LosesPatience s g.time ∧
    g.time + ignoringTime = v.wait.ignoresUntil ∧
    v.maxSpeed = (g.vehicle.choiceAt m g.around).maxSpeed ∧
    v.initialMaxSpeed = g.vehicle.initialMaxSpeed

theorem Lingers.keeps {t : Millis} {last : Option (Glance α ρ)} (h : Lingers m s t last v)
    (ht : t ≤ now) (hkeeps : KeepsTemper v v') : Lingers m s now last v' := by
  unfold Lingers
  rw [hkeeps.maxSpeed, hkeeps.initialMaxSpeed, hkeeps.wait]
  exact h.imp_left fun h => Nat.le_trans h ht

theorem lingers_of_over {last : Option (Glance α ρ)} (h : v.wait = .over) :
    Lingers m s now last v := by
  left
  rw [h]
  exact Nat.zero_le now

theorem Lives.lingers {t : Millis} {last : Option (Glance α ρ)} (h : Lives m s t last v) :
    Lingers m s t last v := by
  induction h with
  | begins id profile seed => exact lingers_of_over rfl
  | placed hv ht h ih =>
    rcases place_wait h with hkeeps | hover
    · exact ih.keeps ht hkeeps
    · exact lingers_of_over hover
  | moves hv ht h ih =>
    rcases update_wait h with hkeeps | hover
    · exact ih.keeps ht hkeeps
    · exact lingers_of_over hover
  | looks hv ht hlooks h ih =>
    obtain ⟨hmax, hinitial, huntil⟩ := lookOut_looks hlooks.1 hlooks.2 h
    rcases huntil with ⟨hlost, huntil⟩ | ⟨-, hsame⟩
    · exact Or.inr ⟨_, rfl, hlost, huntil, hmax, hinitial⟩
    · exact Or.inl (hsame ▸ Nat.le_of_not_lt hlooks.2)
  | looksAway hv ht haway h ih =>
    refine ih.keeps ht ?_
    rcases lookOut_away haway h with rfl | rfl
    · exact ⟨rfl, rfl, rfl⟩
    · exact ⟨rfl, rfl, rfl⟩
  | aimed hv target deceleration acceleration ih => exact ih.keeps (Nat.le_refl _) ⟨rfl, rfl, rfl⟩
  | removed hv ih => exact ih.keeps (Nat.le_refl _) ⟨rfl, rfl, rfl⟩

/-- A vehicle that ignores obstacles makes for the speed that it is allowed. -/
theorem lookOut_ahead (hplaced : v.placed = true) (hignores : now < v.wait.ignoresUntil) :
    Answers (v.lookOut m s around now)
      (v.aim v.maxSpeed v.profile.deceleration v.profile.acceleration) := by
  unfold lookOut
  rw [hplaced, if_neg (by decide), if_pos hignores]
  rfl

/-- **The vehicle drives off.** A vehicle that looks out and loses its patience ignores obstacles
for ten seconds from then on. In this time, whatever is around it, it makes for the speed that it
was given when it was placed, unless it followed another vehicle at the moment in which it lost its
patience: then it makes for the speed that this one had, or that it had itself. -/
theorem lookOut_ignoring {t : Millis} {last : Option (Glance α ρ)} (hv : Lives m s t last v)
    (hplaced : v.placed = true) (ht : t ≤ now) :
    (¬ now < v.wait.ignoresUntil → v.LosesPatience s now →
      ∀ around v', Answers (v.lookOut m s around now) v' →
        now + ignoringTime = v'.wait.ignoresUntil) ∧
    (now < v.wait.ignoresUntil →
      ∃ g, last = some g ∧ g.vehicle.LosesPatience s g.time ∧
        g.time + ignoringTime = v.wait.ignoresUntil ∧
        ∀ around, ∃ v', Answers (v.lookOut m s around now) v' ∧
          ((∀ other, ¬ g.vehicle.Trails m g.around other) →
            v'.speed.target = Scalar.max v.initialMaxSpeed 0) ∧
          ∀ other, g.vehicle.Trails m g.around other →
            v'.speed.target = Scalar.max (Scalar.min
              (Scalar.max other.speed g.vehicle.speed.current) v.initialMaxSpeed) 0) := by
  constructor
  · intro hpatient hloses around v' h
    obtain ⟨-, -, ⟨-, huntil⟩ | ⟨hnot, -⟩⟩ := lookOut_looks hplaced hpatient h
    · exact huntil
    · exact absurd hloses hnot
  intro hignores
  rcases hv.lingers with hover | ⟨g, hlast, hlost, huntil, hmax, hinitial⟩
  · exact absurd (Nat.lt_of_lt_of_le hignores hover) (Nat.not_lt_of_ge ht)
  refine ⟨g, hlast, hlost, huntil, fun around =>
    ⟨_, lookOut_ahead hplaced hignores, fun hfree => ?_, fun other htrails => ?_⟩⟩
  · show Scalar.max v.maxSpeed 0 = _
    rw [hmax, choiceAt_maxSpeed_of_not_trails hfree, hinitial]
  · show Scalar.max v.maxSpeed 0 = _
    rw [hmax, choiceAt_maxSpeed_of_trails htrails, hinitial]

/-! ## Behind a standing vehicle -/

/-- There is another vehicle before this one at its point, in its reach. -/
def StandsBehind (m : RoadMap α) (front : Snapshot α) (now : Millis) (v : Vehicle α ρ) : Prop :=
  v.placed = true ∧ ¬ now < v.wait.ignoresUntil ∧ front.id ≠ v.id ∧ front.point = v.point ∧
    0 < (m.forward v.point).dot (front.position - v.position) ∧
    ¬ outlookDistance v.speed.current v.profile.deceleration < -v.progress

instance (m : RoadMap α) (front : Snapshot α) (now : Millis) (v : Vehicle α ρ) :
    Decidable (v.StandsBehind m front now) := by
  unfold StandsBehind; infer_instance

/-- What a vehicle sees of another one right before it. -/
def seenBehind (front : Snapshot α) (v : Vehicle α ρ) : Outlook α :=
  ⟨some (front, v.position.distance front.position - v.profile.frontLength - front.rearLength),
    Scalar.infinity⟩

/-- The vehicle that has looked out behind another one, with nothing else around. -/
def lookOutBehind (s : Settings α) (front : Snapshot α) (now : Millis) (v : Vehicle α ρ) :
    Except Fault (Vehicle α ρ) := do
  let w ← v.watchWait s now
  return w.heed (w.seenBehind front) none

theorem lookAhead_behind {front : Snapshot α} (h : v.StandsBehind m front now) :
    v.lookAhead m (.ofList [front]) = (v.seenBehind front, v) := by
  obtain ⟨-, -, hother, hpoint, hahead, hreach⟩ := h
  refine lookAhead_ahead hother hahead hreach ?_
  rw [Occupancy.get?_ofList, List.filter_cons, if_pos (decide_eq_true hpoint)]
  rfl

theorem lookOut_behind {front : Snapshot α} (h : v.StandsBehind m front now) :
    v.lookOut m s ⟨.ofList [front], []⟩ now = v.lookOutBehind s front now := by
  rw [lookOut_eq h.1 h.2.1]
  unfold lookOutBehind
  cases hw : v.watchWait s now with
  | error fault => rfl
  | ok w =>
    obtain ⟨random, wait, rfl⟩ := watchWait_cases hw
    obtain ⟨hplaced, -, hbehind⟩ := h
    have hstands : StandsBehind m front wait.ignoresUntil { v with random, wait } :=
      ⟨hplaced, Nat.lt_irrefl _, hbehind⟩
    rw [ok_bind, ok_bind, lookAhead_behind hstands]
    rfl

/-- A vehicle that stands somewhere on the first lane. -/
private def parked (z : Rat) : Snapshot Rat :=
  ⟨⟨SlotKey.nth 0, 1⟩, ⟨0⟩, ⟨0, 0, z⟩, 0, 0, 2, 25⟩

private def placingAtStart :
    Logged Rat (Except DeadEnd Unit × Vehicle Rat (Tape fun _ _ => 0)) :=
  (Vehicle.new ⟨SlotKey.nth 0, 0⟩ Settings.standard.profile .standard 0).place sideBySide .standard
    ⟨0⟩ 0 false

/-- What comes of a vehicle that is placed at the beginning of the lane. -/
private def atStart : Except DeadEnd Unit × Vehicle Rat (Tape fun _ _ => 0) :=
  answerOf placingAtStart (by decide +kernel)

/-- The vehicle when it looks out at first and when it has looked out once more, ten seconds
later. -/
private def standingBehind (z : Rat) :
    Logged Rat (Vehicle Rat (Tape fun _ _ => 0) × Vehicle Rat (Tape fun _ _ => 0)) := do
  let v ← atStart.2.lookOutBehind .standard (parked z) 100
  let v' ← v.lookOutBehind .standard (parked z) 10200
  return (v, v')

/-- A vehicle that looks out twice has lived until then. -/
private theorem lives_of_standingBehind {z : Rat}
    {vs : Vehicle Rat (Tape fun _ _ => 0) × Vehicle Rat (Tape fun _ _ => 0)}
    (h : Answers (standingBehind z) vs)
    (hfirst : atStart.2.StandsBehind sideBySide (parked z) 100)
    (hsecond : vs.1.StandsBehind sideBySide (parked z) 10200) :
    Lives sideBySide .standard 10200 (some ⟨vs.1, ⟨.ofList [parked z], []⟩, 10200⟩) vs.2 := by
  obtain ⟨v, hv, hanswer⟩ := answers_bind h
  obtain ⟨v', hv', hanswer⟩ := answers_bind hanswer
  rw [answers_pure hanswer] at hsecond ⊢
  have hstart : Lives sideBySide .standard 0 none atStart.2 :=
    .placed (.begins ⟨SlotKey.nth 0, 0⟩ _ 0) (Nat.le_refl 0) (answers_lift (answers_answerOf _))
  have hlook : Answers (atStart.2.lookOut sideBySide .standard ⟨.ofList [parked z], []⟩ 100) v := by
    rw [lookOut_behind hfirst]
    exact answers_lift hv
  have hlook' : Answers (v.lookOut sideBySide .standard ⟨.ofList [parked z], []⟩ 10200) v' := by
    rw [lookOut_behind hsecond]
    exact answers_lift hv'
  have hlooked := hstart.looks (Nat.zero_le 100) ⟨hfirst.1, hfirst.2.1⟩ hlook
  exact hlooked.looks (by decide) ⟨hsecond.1, hsecond.2.1⟩ hlook'

/-- The vehicle close behind another one, at its two looks. -/
private def standingNear : Vehicle Rat (Tape fun _ _ => 0) × Vehicle Rat (Tape fun _ _ => 0) :=
  answerOf (standingBehind 15) (by decide +kernel)

/-- A vehicle that has waited close behind another one drives off at the speed that it was given. -/
theorem drives_off_near_obstacle :
    Lives sideBySide .standard 10200
      (some ⟨standingNear.1, ⟨.ofList [parked 15], []⟩, 10200⟩) standingNear.2 ∧
    standingNear.2.placed = true ∧ 10300 < standingNear.2.wait.ignoresUntil ∧
    ∃ v', Answers (standingNear.2.lookOut sideBySide .standard ⟨.ofList [parked 15], []⟩ 10300) v' ∧
      v'.speed.target = 80 / (36 / 10) := by
  have hsecond : standingNear.1.StandsBehind sideBySide (parked 15) 10200 := by decide +kernel
  have hlives := lives_of_standingBehind (answers_answerOf _) (by decide +kernel) hsecond
  have hplaced : standingNear.2.placed = true := by decide +kernel
  have hignores : 10300 < standingNear.2.wait.ignoresUntil := by decide +kernel
  obtain ⟨g, hg, -, -, hlook⟩ :=
    (lookOut_ignoring hlives hplaced (show 10200 ≤ 10300 by decide)).2 hignores
  cases hg
  obtain ⟨v', hv', hfree, -⟩ := hlook ⟨.ofList [parked 15], []⟩
  -- the gap is 11 m, which is too near to follow
  have hnear : ∀ other, ¬ standingNear.1.Trails sideBySide ⟨.ofList [parked 15], []⟩ other := by
    rintro other ⟨gap, hseen, hroom, -⟩
    rw [lookAhead_behind hsecond] at hseen
    cases hseen
    exact hroom (by decide +kernel)
  refine ⟨hlives, hplaced, hignores, v', hv', ?_⟩
  rw [hfree hnear]
  decide +kernel

/-- The vehicle some way behind another one, at its two looks. -/
private def standingOff : Vehicle Rat (Tape fun _ _ => 0) × Vehicle Rat (Tape fun _ _ => 0) :=
  answerOf (standingBehind 20) (by decide +kernel)

/-- A vehicle that has waited some way behind another one stays there, although it ignores
obstacles. -/
theorem stays_behind_obstacle :
    Lives sideBySide .standard 10200
      (some ⟨standingOff.1, ⟨.ofList [parked 20], []⟩, 10200⟩) standingOff.2 ∧
    standingOff.2.placed = true ∧ 10300 < standingOff.2.wait.ignoresUntil ∧
    standingOff.2.initialMaxSpeed = 80 / (36 / 10) ∧
    ∃ v', Answers (standingOff.2.lookOut sideBySide .standard ⟨.ofList [parked 20], []⟩ 10300) v' ∧
      v'.speed.target = 0 := by
  have hplaced : standingOff.2.placed = true := by decide +kernel
  have hignores : 10300 < standingOff.2.wait.ignoresUntil := by decide +kernel
  refine ⟨lives_of_standingBehind (answers_answerOf _) (by decide +kernel) (by decide +kernel),
    hplaced, hignores, by decide +kernel, _, lookOut_ahead hplaced hignores, by decide +kernel⟩

end Vehicle

end RoadTraffic
