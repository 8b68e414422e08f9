import RoadTraffic.Proofs.Journal.Answers
import RoadTraffic.Proofs.Random.Bounds
import RoadTraffic.Proofs.Random.Tape
import RoadTraffic.Proofs.Roads.SideBySide
import RoadTraffic.Proofs.Vehicle.Occupancy
import RoadTraffic.Proofs.Vehicle.Profile

/-!
# The vehicle in front on the same segment

A vehicle that looks out stops for another one that stands right before it on its own segment, but
only if it notices that one: at each point a single vehicle is seen, the first of the slowest ones,
and that may be the vehicle that looks out itself. Then the search goes on at the next point, and
whatever else is at the vehicle's own point counts for nothing.

`lookOut_inFront` says both: with a vehicle in front that is noticed the target speed is zero, and
without one the vehicle chooses the speed that it would choose on a road without those in front.
-/

namespace RoadTraffic

namespace Vehicle

variable {α ρ : Type} [Scalar α] {m : RoadMap α} {s : Settings α} {v : Vehicle α ρ}
  {now : Millis}

/-- Another vehicle stands before this one on its segment, too near to go on. -/
structure InFront (m : RoadMap α) (v : Vehicle α ρ) (other : Snapshot α) : Prop where
  isOther : other.id ≠ v.id
  samePoint : other.point = v.point
  ahead : 0 < (m.forward v.point).dot (other.position - v.position)
  tooNear : v.position.distance other.position - v.profile.frontLength - other.rearLength <
    v.obstacleDistance

instance (m : RoadMap α) (v : Vehicle α ρ) (other : Snapshot α) : Decidable (v.InFront m other) :=
  decidable_of_iff
    (other.id ≠ v.id ∧ other.point = v.point ∧
      0 < (m.forward v.point).dot (other.position - v.position) ∧
      v.position.distance other.position - v.profile.frontLength - other.rearLength <
        v.obstacleDistance)
    ⟨fun h => ⟨h.1, h.2.1, h.2.2.1, h.2.2.2⟩, fun h => ⟨h.1, h.2, h.3, h.4⟩⟩

/-- The vehicle looks as far as its own point, and what it sees there, the first of the slowest
vehicles, is in front of it. -/
def Notices (m : RoadMap α) (v : Vehicle α ρ) (vehicles : List (Snapshot α)) : Prop :=
  ¬ outlookDistance v.speed.current v.profile.deceleration < -v.progress ∧
    ∃ front, v.InFront m front ∧
      Occupancy.IsFirstSlowest (vehicles.filter (·.point = v.point)) front

/-! ## What is seen -/

theorem seenAt_ahead {o : Occupancy α} {front : Snapshot α} (hother : front.id ≠ v.id)
    (hahead : 0 < (m.forward v.point).dot (front.position - v.position))
    (hseen : o.get? v.point = some front) :
    v.seenAt m o v.point = some (front,
      v.position.distance front.position - v.profile.frontLength - front.rearLength) := by
  unfold seenAt
  rw [hseen]
  dsimp only
  rw [if_neg hother, if_pos (Or.inr hahead)]

theorem seenAt_alone {o : Occupancy α} {point : PointId}
    (halone : ∀ p x, o.get? p = some x → x.id = v.id) : v.seenAt m o point = none := by
  unfold seenAt
  split
  · rfl
  · next x hx => rw [if_pos (halone point x hx)]

variable [RandomSource ρ]

/-- Looking ahead, a vehicle learns of the others only what is seen at each point. -/
theorem lookFrom_congr {o o' : Occupancy α} (h : ∀ p, o.get? p = o'.get? p) {reach : α}
    {points : Nat} {point : PointId} {ahead bendSpeed : α} {v : Vehicle α ρ} :
    lookFrom m o reach points point ahead bendSpeed v =
      lookFrom m o' reach points point ahead bendSpeed v := by
  have hseen : ∀ (v : Vehicle α ρ) p, v.seenAt m o p = v.seenAt m o' p := by
    intro v p
    unfold seenAt
    rw [h p]
  induction points generalizing point ahead bendSpeed v with
  | zero => rfl
  | succ points ih =>
    unfold lookFrom
    rw [hseen]
    simp only [ih]

/-- At its own point a vehicle sees another one that stands ahead. -/
theorem lookAhead_ahead {o : Occupancy α} {front : Snapshot α} (hother : front.id ≠ v.id)
    (hahead : 0 < (m.forward v.point).dot (front.position - v.position))
    (hreach : ¬ outlookDistance v.speed.current v.profile.deceleration < -v.progress)
    (hseen : o.get? v.point = some front) :
    v.lookAhead m o = (⟨some (front, v.position.distance front.position -
      v.profile.frontLength - front.rearLength), Scalar.infinity⟩, v) := by
  unfold lookAhead outlookPoints lookFrom
  rw [if_neg hreach, seenAt_ahead hother hahead hseen]

/-! ## What is chosen -/

/-- The clock has not run back since the vehicle came to stand, and there is room left for what is
planned ahead. -/
def ClockFits (now : Millis) (v : Vehicle α ρ) : Prop :=
  (∀ since, v.wait.since = some since → since ≤ now) ∧ now + ignoringTime ≤ Millis.last

theorem later_eq {time duration : Nat} (h : time + duration ≤ Millis.last) :
    Millis.later time duration = .ok (time + duration) := if_pos h

theorem drawHorn_answers {since : Nat} (h : since + ignoringTime ≤ Millis.last) (r : ρ) :
    ∃ drawn, drawHorn since r = .ok drawn := by
  -- the horn ends 8.5 s after the wait has begun at the latest
  have hfits : since + 10000 ≤ Millis.last :=
    Nat.le_trans (Nat.add_le_add_left (by decide) since) h
  have hdelay : (hornDelay.draw r).1 ≤ 7000 := (Interval.draw_mem (by decide) (by decide) r).2
  unfold drawHorn
  generalize hornDelay.draw r = first at hdelay ⊢
  rcases first with ⟨delay, r₁⟩
  have hduration : (hornDuration.draw r₁).1 ≤ 1500 :=
    (Interval.draw_mem (by decide) (by decide) r₁).2
  dsimp only at hdelay ⊢
  generalize hornDuration.draw r₁ = second at hduration ⊢
  rcases second with ⟨duration, r₂⟩
  dsimp only at hduration ⊢
  rw [later_eq (by omega), ok_bind, later_eq (by omega), ok_bind]
  exact ⟨_, rfl⟩

theorem watchWait_answers (h : v.ClockFits now) : ∃ v', v.watchWait s now = .ok v' := by
  have hsince : v.wait.since.getD now ≤ now := by
    cases hsince : v.wait.since with
    | none => exact Nat.le_refl now
    | some since => exact h.1 since hsince
  have hwaited : Millis.since now (v.wait.since.getD now) = .ok (now - v.wait.since.getD now) :=
    if_pos hsince
  have hdrawn := drawHorn_answers (Nat.le_trans (Nat.add_le_add_right hsince _) h.2) v.random
  unfold watchWait
  split
  · exact ⟨_, rfl⟩
  · dsimp only
    rw [hwaited, later_eq h.2]
    obtain ⟨drawn, hdrawn⟩ := hdrawn
    split
    · rw [pure_bind, ok_bind]
      split
      · exact ⟨_, rfl⟩
      · exact ⟨_, rfl⟩
    · rw [hdrawn, ok_bind, ok_bind]
      split
      · exact ⟨_, rfl⟩
      · exact ⟨_, rfl⟩

/-- What makes no difference to the outlook makes none to the choice. -/
theorem lookOut_congr {o o' : Occupancy α} {players : List (PlayerSnapshot α)}
    (hplaced : v.placed = true) (hpatient : ¬ now < v.wait.ignoresUntil)
    (h : ∀ random wait, lookAhead m o { v with random, wait } =
      lookAhead m o' { v with random, wait }) :
    v.lookOut m s ⟨o, players⟩ now = v.lookOut m s ⟨o', players⟩ now := by
  rw [lookOut_eq hplaced hpatient, lookOut_eq hplaced hpatient]
  cases hw : v.watchWait s now with
  | error fault => rw [error_bind, error_bind]
  | ok w =>
    obtain ⟨random, wait, rfl⟩ := watchWait_cases hw
    rw [ok_bind, ok_bind]
    dsimp only
    rw [h random wait]

variable [OrderedScalar α]

omit [RandomSource ρ] in
theorem heed_blocked {front : Snapshot α} {gap bendSpeed : α} {player : Option (α × α)}
    (h : v.isBlocked gap) : (v.heed ⟨some (front, gap), bendSpeed⟩ player).speed.target = 0 := by
  have htarget : (v.choose (some (front, gap)) player).target = 0 := by
    unfold choose
    cases player with
    | none =>
      dsimp only
      rw [if_pos h]
    | some p =>
      dsimp only
      rw [if_pos (Or.inl h)]
  unfold heed
  show Scalar.max (Scalar.min (Scalar.min _ _) _) 0 = 0
  rw [htarget]
  exact OrderedScalar.max_zero
    (OrderedScalar.min_nonpos _ (OrderedScalar.min_nonpos _ (Or.inl rfl)))

/-- A vehicle that notices none of those in front of it looks ahead as if they were not there. -/
theorem lookAhead_unnoticed {vehicles : List (Snapshot α)} (h : ¬ v.Notices m vehicles)
    (hspeeds : ∀ x ∈ vehicles, Scalar.isOrdered x.speed) :
    v.lookAhead m (.ofList vehicles) =
      v.lookAhead m (.ofList (vehicles.filter fun x => ¬ v.InFront m x)) := by
  by_cases hreach : outlookDistance v.speed.current v.profile.deceleration < -v.progress
  · unfold lookAhead outlookPoints lookFrom
    rw [if_pos hreach, if_pos hreach]
  · -- none of those that are seen at a point is one of those in front
    refine lookFrom_congr fun p => (Occupancy.get?_filter hspeeds fun x hseen => ?_).symm
    refine decide_eq_true fun hfront => h ⟨hreach, x, hfront, ?_⟩
    have hfirst := (Occupancy.get?_eq_some hspeeds).mp hseen
    have hp : x.point = p := of_decide_eq_true (List.mem_filter.mp hfirst.mem).2
    rw [← hfront.samePoint, hp]
    exact hfirst

/-! ## What comes of it -/

theorem lookOut_noticed {vehicles : List (Snapshot α)} {players : List (PlayerSnapshot α)}
    {v' : Vehicle α ρ} (hplaced : v.placed = true) (hpatient : ¬ now < v.wait.ignoresUntil)
    (hnotices : v.Notices m vehicles)
    (h : Answers (v.lookOut m s ⟨.ofList vehicles, players⟩ now) v') : v'.speed.target = 0 := by
  rw [lookOut_eq hplaced hpatient] at h
  obtain ⟨w, hw, h⟩ := answers_bind h
  obtain ⟨random, wait, rfl⟩ := watchWait_cases hw
  obtain ⟨hreach, front, hfront, hfirst⟩ := hnotices
  have hseen : (Occupancy.ofList vehicles).get? v.point = some front := by
    rw [Occupancy.get?_ofList]
    exact Occupancy.firstSlowest_of_isFirstSlowest hfirst
  -- the wait is nothing that the vehicle looks at, nor what the others see of it
  have hlook := lookAhead_ahead (v := { v with random, wait }) hfront.isOther hfront.ahead hreach
    hseen
  rw [answers_pure h]
  dsimp only
  rw [hlook]
  exact heed_blocked hfront.tooNear

theorem lookOut_unnoticed {vehicles : List (Snapshot α)} {players : List (PlayerSnapshot α)}
    (hplaced : v.placed = true) (hpatient : ¬ now < v.wait.ignoresUntil)
    (hnot : ¬ v.Notices m vehicles) (hspeeds : ∀ x ∈ vehicles, Scalar.isOrdered x.speed) :
    v.lookOut m s ⟨.ofList vehicles, players⟩ now =
      v.lookOut m s ⟨.ofList (vehicles.filter fun x => ¬ v.InFront m x), players⟩ now := by
  refine lookOut_congr hplaced hpatient fun random wait => ?_
  have hfront : ∀ x, InFront m { v with random, wait } x ↔ v.InFront m x :=
    fun x => ⟨fun h => ⟨h.1, h.2, h.3, h.4⟩, fun h => ⟨h.1, h.2, h.3, h.4⟩⟩
  have hnot' : ¬ Notices m { v with random, wait } vehicles :=
    fun ⟨hreach, x, hx, hfirst⟩ => hnot ⟨hreach, x, (hfront x).mp hx, hfirst⟩
  rw [lookAhead_unnoticed hnot' hspeeds]
  simp only [hfront]

/-- **The vehicle in front.** A vehicle on the road that does not ignore obstacles sets its target
speed to zero if it notices one in front of it. If it notices none, then those in front make no
difference. It does choose a speed as long as the clock fits. -/
theorem lookOut_inFront (vehicles : List (Snapshot α)) (players : List (PlayerSnapshot α))
    (hplaced : v.placed = true) (hpatient : ¬ now < v.wait.ignoresUntil) :
    (v.Notices m vehicles → ∀ v', Answers (v.lookOut m s ⟨.ofList vehicles, players⟩ now) v' →
      v'.speed.target = 0) ∧
    (¬ v.Notices m vehicles → (∀ x ∈ vehicles, Scalar.isOrdered x.speed) →
      v.lookOut m s ⟨.ofList vehicles, players⟩ now =
        v.lookOut m s ⟨.ofList (vehicles.filter fun x => ¬ v.InFront m x), players⟩ now) ∧
    (v.ClockFits now → ∃ v', Answers (v.lookOut m s ⟨.ofList vehicles, players⟩ now) v') := by
  refine ⟨fun hnotices v' => lookOut_noticed hplaced hpatient hnotices,
    lookOut_unnoticed hplaced hpatient, fun hclock => ?_⟩
  obtain ⟨w, hw⟩ := watchWait_answers (s := s) hclock
  rw [lookOut_eq hplaced hpatient, hw, ok_bind]
  exact ⟨_, rfl⟩

/-! Two vehicles drive off from one point at the same speed, one half a second after the other. -/

private def evenSettings : Settings Rat := { Settings.standard with speedVariation := 0 }

/-- A vehicle as it drives off. -/
private def drivingOff (serial : Nat) (now : Millis) :
    Logged Rat (Except DeadEnd Unit × Vehicle Rat (Tape fun _ _ => 0)) :=
  (Vehicle.new ⟨SlotKey.nth 0, serial⟩ evenSettings.profile evenSettings 0).place sideBySide
    evenSettings ⟨0⟩ now true

private theorem drivingOff_isOk : (drivingOff 1 0 #[]).1.isOk = true ∧
    (drivingOff 0 500 #[]).1.isOk = true := by decide +kernel

/-- The vehicle that has just driven off. -/
private def follower : Vehicle Rat (Tape fun _ _ => 0) := (answerOf _ drivingOff_isOk.2).2

/-- The vehicle that drove off before, when it has come some way. -/
private def leading : Logged Rat (Except DeadEnd Unit × Vehicle Rat (Tape fun _ _ => 0)) :=
  (answerOf _ drivingOff_isOk.1).2.update sideBySide evenSettings 500

private theorem leading_isOk : (leading #[]).1.isOk = true := by decide +kernel

private def leader : Vehicle Rat (Tape fun _ _ => 0) := (answerOf _ leading_isOk).2

private theorem leader_inFront : follower.InFront sideBySide leader.snapshot := by decide +kernel

/-- The follower stops for the leader where the leader comes first in the list. -/
theorem lookOut_inFront_leader_first :
    ∃ v', Answers (follower.lookOut sideBySide evenSettings
      ⟨.ofList [leader.snapshot, follower.snapshot], []⟩ 500) v' ∧ v'.speed.target = 0 := by
  have hnotices : follower.Notices sideBySide [leader.snapshot, follower.snapshot] := by
    refine ⟨by decide +kernel, leader.snapshot, leader_inFront, [], [follower.snapshot], ?_, ?_, ?_⟩
    · decide +kernel
    · exact fun y hy => absurd hy List.not_mem_nil
    · decide +kernel
  have hclock : follower.ClockFits 500 := by
    refine ⟨fun since h => ?_, by decide⟩
    have hnone : follower.wait.since = none := by decide +kernel
    rw [hnone] at h
    cases h
  have hplaced : follower.placed = true := by decide +kernel
  have hpatient : ¬ 500 < follower.wait.ignoresUntil := by decide +kernel
  obtain ⟨hstops, -, hanswers⟩ := lookOut_inFront (m := sideBySide) (s := evenSettings)
    [leader.snapshot, follower.snapshot] [] hplaced hpatient
  obtain ⟨v', hv'⟩ := hanswers hclock
  exact ⟨v', hv', hstops hnotices v' hv'⟩

/-- Where the follower comes first nobody sees the leader. -/
private theorem leader_hidden {p : PointId} {x : Snapshot Rat}
    (h : (Occupancy.ofList [follower.snapshot, leader.snapshot]).get? p = some x) :
    x.id = follower.id := by
  have hfirst : Occupancy.firstSlowest [follower.snapshot, leader.snapshot] =
    some follower.snapshot := by decide +kernel
  have hpoints : leader.snapshot.point = follower.snapshot.point := by decide +kernel
  rw [Occupancy.get?_ofList] at h
  by_cases hp : follower.snapshot.point = p
  · rw [List.filter_cons, if_pos (decide_eq_true hp), List.filter_cons,
      if_pos (decide_eq_true (hpoints.trans hp)), List.filter_nil, hfirst] at h
    rw [← Option.some.inj h]
    rfl
  · rw [List.filter_cons, if_neg (fun h => hp (of_decide_eq_true h)), List.filter_cons,
      if_neg (fun h => hp (hpoints.symm.trans (of_decide_eq_true h)))] at h
    cases h

/-- Where the follower itself comes first it sees itself at its point, and goes on. -/
theorem lookOut_inFront_leader_last :
    follower.placed = true ∧ ¬ 500 < follower.wait.ignoresUntil ∧
      follower.InFront sideBySide leader.snapshot ∧
      ∃ v', Answers (follower.lookOut sideBySide evenSettings
        ⟨.ofList [follower.snapshot, leader.snapshot], []⟩ 500) v' ∧ v'.speed.target ≠ 0 := by
  have hplaced : follower.placed = true := by decide +kernel
  have hpatient : ¬ 500 < follower.wait.ignoresUntil := by decide +kernel
  have halone : ∀ p x, (Occupancy.ofList [follower.snapshot, leader.snapshot]).get? p = some x →
      x.id = follower.id := fun p x => leader_hidden
  have hwait : follower.watchWait evenSettings 500 = .ok follower := by
    have hover : (⟨none, follower.wait.ignoresUntil, none⟩ : Wait) = follower.wait := by
      decide +kernel
    unfold watchWait
    rw [if_pos (by decide +kernel), hover]
    rfl
  generalize Occupancy.ofList [follower.snapshot, leader.snapshot] = o at halone
  have hsignal : follower.signalFor sideBySide follower.point (-follower.progress) = follower := by
    have hplain : (sideBySide.point follower.point).branch = none := by decide +kernel
    unfold signalFor
    rw [hplain]
  have hnext : follower.walker.tryNext sideBySide follower.point =
      (some ⟨1⟩, (follower.walker.tryNext sideBySide follower.point).2) :=
    Prod.ext (by decide +kernel) rfl
  refine ⟨hplaced, hpatient, leader_inFront, ?_⟩
  rw [lookOut_eq hplaced hpatient, hwait, ok_bind]
  refine ⟨_, rfl, ?_⟩
  unfold lookAhead outlookPoints
  rw [lookFrom, if_neg (by decide +kernel), seenAt_alone halone]
  dsimp only
  rw [hsignal, hnext]
  dsimp only
  -- the next point is too far away to be looked at
  rw [lookFrom, if_pos (by decide +kernel)]
  decide +kernel

end Vehicle

end RoadTraffic
