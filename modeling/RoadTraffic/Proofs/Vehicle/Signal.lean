import RoadTraffic.Proofs.Vehicle.InFront
import RoadTraffic.Proofs.Vehicle.Tangents

/-!
# What a vehicle signals

A vehicle that begins to signal for a junction asks its walker whether to take it (`Announces`), and
its walker stands by the answer. So the signal tells where the vehicle goes, as long as the lane
goes on behind the junction (`lookOut_announces`). At the end of a lane the junction is the only
way, whatever the walker has said (`signal_at_end_of_lane`).
-/

namespace RoadTraffic

namespace Vehicle

open Walker (Keeps Made Firm)

section

variable {α ρ : Type} [Scalar α] {m : RoadMap α} {v v' : Vehicle α ρ}

/-- What a vehicle indicates that takes a junction, or passes it by. -/
def indicatorFor (junction : Junction α) (taken : Bool) : Indicator :=
  if taken then junction.whenTaken else junction.whenPassed

/-- The vehicle signals for a junction what its walker has decided about it. -/
structure Announces (m : RoadMap α) (j : JunctionId) (taken : Bool) (v : Vehicle α ρ) : Prop where
  junction : v.signal.junction = some j
  indicator : v.signal.indicator = indicatorFor (m.junction j) taken
  branch : ∃ p, (m.point p).branch = some j
  decided : ∃ w : Walker ρ, w.decided j = some taken ∧ Keeps m.LeavesEnd w v.walker

/-- A vehicle that signals for a junction announces what its walker has decided. -/
def Truthful (m : RoadMap α) (v : Vehicle α ρ) : Prop :=
  ∀ j, v.signal.junction = some j → ∃ taken, Announces m j taken v

theorem Truthful.keeps (h : Truthful m v) (hsignal : v'.signal = v.signal)
    (hkeeps : Keeps m.LeavesEnd v.walker v'.walker) : Truthful m v' := by
  intro j hj
  rw [hsignal] at hj
  obtain ⟨taken, hannounces⟩ := h j hj
  obtain ⟨w, hw, hwv⟩ := hannounces.decided
  refine ⟨taken, ?_, ?_, hannounces.branch, w, hw, hwv.trans hkeeps⟩
  · rw [hsignal]
    exact hannounces.junction
  · rw [hsignal]
    exact hannounces.indicator

/-- Where a vehicle goes that is on its way from the start of a junction that its walker had decided
about at some time before. -/
theorem OnRoute.from_start (hl : m.Linked) (hv : OnRoute m v) {j : JunctionId} {taken : Bool}
    {w : Walker ρ} (hw : w.decided j = some taken) (hkeeps : Keeps m.LeavesEnd w v.walker)
    (hbranch : (m.point v.segment.start).branch = some j) :
    ((m.point v.segment.start).next = none → v.segment.finish = (m.junction j).finish) ∧
      ∀ q, (m.point v.segment.start).next = some q → ¬ LoopsAt m v.segment.start →
        v.walker.decided j = some taken ∧
          v.segment.finish = if taken then (m.junction j).finish else q := by
  obtain ⟨through, hmade, hfirm⟩ := hv.made
  constructor
  · intro hnext
    cases through with
    | true => exact hmade.target_eq rfl hbranch
    | false => exact absurd (hnext.symm.trans (hmade.next_eq rfl)) (by simp)
  · intro q hnext hloop
    have hdecided : v.walker.decided j = some taken := by
      rcases hkeeps.decided j taken hw with hd | ⟨⟨p, hp, hend⟩, -⟩
      · exact hd
      · rw [← hl.start_of_branch hp, hl.start_of_branch hbranch, hnext] at hend
        cases hend
    obtain rfl : taken = through :=
      Option.some.inj (hdecided.symm.trans (hfirm hloop j hbranch))
    refine ⟨hdecided, ?_⟩
    cases taken with
    | true => exact hmade.target_eq rfl hbranch
    | false => exact (Option.some.inj (hnext.symm.trans (hmade.next_eq rfl))).symm

end

variable {α ρ : Type} [Scalar α] [RandomSource ρ] {m : RoadMap α} {s : Settings α}
  {v v' : Vehicle α ρ}

theorem signalFor_truthful (hw : v.walker.remembers = true) (h : Truthful m v) (point : PointId)
    (ahead : α) : Truthful m (v.signalFor m point ahead) := by
  unfold signalFor
  split
  · exact h
  · next k hk =>
    dsimp only
    split
    · intro j hj
      obtain rfl : k = j := Option.some.inj hj
      exact ⟨_, rfl, rfl, ⟨point, hk⟩, _, Walker.decided_takes m hw k, .refl _⟩
    · exact h

/-- Looking ahead, a vehicle begins no other signals than those that it announces. -/
theorem lookFrom_truthful (hw : v.walker.remembers = true) (h : Truthful m v)
    {vehicles : Occupancy α} {reach : α} {points : Nat} {point : PointId} {ahead bendSpeed : α} :
    Truthful m (lookFrom m vehicles reach points point ahead bendSpeed v).2 := by
  induction points generalizing point ahead bendSpeed v with
  | zero => exact h
  | succ points ih =>
    unfold lookFrom
    split
    · exact h
    split
    · exact h
    have hsignal := signalFor_truthful hw h point ahead
    have hremembers := (signalFor_keepsRoute (m := m) hw point ahead).walker.remembers hw
    have hkeeps := Walker.tryNext_keeps (m := m) hremembers point
    dsimp only
    split
    · next walker hwalker =>
      rw [hwalker] at hkeeps
      exact hsignal.keeps rfl hkeeps
    · next next walker hwalker =>
      rw [hwalker] at hkeeps
      exact ih (v := { v.signalFor m point ahead with walker }) (hkeeps.remembers hremembers)
        (hsignal.keeps rfl hkeeps)

theorem lookOut_truthful (hw : v.walker.remembers = true) (h : Truthful m v)
    {around : Surroundings α} {now : Millis} (hlook : Answers (v.lookOut m s around now) v') :
    Truthful m v' := by
  unfold lookOut at hlook
  split at hlook
  · rw [answers_pure hlook]
    exact h
  split at hlook
  · rw [answers_pure hlook]
    exact h.keeps rfl (.refl _)
  obtain ⟨u, hu, hlook⟩ := answers_bind hlook
  obtain ⟨random, wait, rfl⟩ := watchWait_cases hu
  have hahead : Truthful m (lookAhead m around.vehicles { v with random, wait }).2 := by
    unfold lookAhead
    exact lookFrom_truthful (v := { v with random, wait }) hw (h.keeps rfl (.refl _))
  rw [answers_pure hlook]
  exact hahead.keeps rfl (.refl _)

/-- **The signal tells the truth.** A vehicle that drives looks out and begins to signal for a
junction. What it indicates belongs to one of the two ways on from the junction's start. When it has
left the start, at any time and as long as it drives, it has gone this way; only at the end of a
lane, where the junction is the only way, it has gone through the junction in any case. -/
theorem lookOut_announces (hm : m.Validated) {around : Surroundings α} {now : Millis}
    {j : JunctionId} (hv : Driving m s v) (h : Answers (v.lookOut m s around now) v')
    (hnone : v.signal.junction = none) (hj : v'.signal.junction = some j) :
    ∃ taken, v'.signal.indicator = indicatorFor (m.junction j) taken ∧
      ∀ u, Rolls m s v' u → u.segment.start = (m.junction j).start →
        ((m.point u.segment.start).next = none → u.segment.finish = (m.junction j).finish) ∧
        ∀ q, (m.point u.segment.start).next = some q → ¬ LoopsAt m u.segment.start →
          u.walker.decided j = some taken ∧
            u.segment.finish = if taken then (m.junction j).finish else q := by
  have hl := hm.linked
  have hon := (hv.onRoute hl).1
  have hsilent : Truthful m v := fun k hk => absurd (hnone.symm.trans hk) (by simp)
  obtain ⟨taken, hannounces⟩ := lookOut_truthful hon.remembers hsilent h j hj
  obtain ⟨p, hp⟩ := hannounces.branch
  obtain ⟨w, hw, hkeeps⟩ := hannounces.decided
  refine ⟨taken, hannounces.indicator, fun u hu hstart => ?_⟩
  have hon' := hon.of_keepsRoute hl (lookOut_keepsRoute hon.remembers h)
  obtain ⟨honu, hkeepsu⟩ := hu.onRoute hl hon'
  refine honu.from_start hl hw (hkeeps.trans hkeepsu) ?_
  rw [hstart, hl.start_of_branch hp]
  exact hp

/-! ## On an empty road -/

/-- Looks ahead where there is no vehicle to be seen. -/
def lookFromAlone (m : RoadMap α) (reach : α) :
    Nat → PointId → α → α → Vehicle α ρ → Outlook α × Vehicle α ρ
  | 0, _, _, bendSpeed, v => (⟨none, bendSpeed⟩, v)
  | points + 1, point, ahead, bendSpeed, v =>
    if reach < ahead then (⟨none, bendSpeed⟩, v)
    else
      let bendSpeed := v.bendLimit m point ahead bendSpeed
      let v := v.signalFor m point ahead
      match v.walker.tryNext m point with
      | (none, walker) => (⟨none, bendSpeed⟩, { v with walker })
      | (some next, walker) =>
        lookFromAlone m reach points next (ahead + m.distance point next) bendSpeed
          { v with walker }

omit [RandomSource ρ] in
theorem seenAt_empty {v : Vehicle α ρ} {point : PointId} : v.seenAt m .empty point = none := by
  unfold seenAt
  rw [Occupancy.get?_empty]

theorem lookFrom_empty {reach : α} {points : Nat} {point : PointId} {ahead bendSpeed : α}
    {v : Vehicle α ρ} :
    lookFrom m .empty reach points point ahead bendSpeed v =
      lookFromAlone m reach points point ahead bendSpeed v := by
  induction points generalizing point ahead bendSpeed v with
  | zero => rfl
  | succ points ih =>
    unfold lookFrom lookFromAlone
    rw [seenAt_empty]
    split
    · rfl
    · dsimp only
      generalize (v.signalFor m point ahead).walker.tryNext m point = step
      rcases step with ⟨next, walker⟩
      cases next with
      | none => rfl
      | some next => exact ih

/-- The vehicle that has looked out on an empty road. -/
def lookOutAlone (m : RoadMap α) (s : Settings α) (now : Millis) (v : Vehicle α ρ) :
    Except Fault (Vehicle α ρ) := do
  let v ← v.watchWait s now
  let (outlook, v) := lookFromAlone m (outlookDistance v.speed.current v.profile.deceleration)
    outlookPoints v.point (-v.progress) Scalar.infinity v
  return v.heed outlook none

theorem lookOut_empty {now : Millis} (hplaced : v.placed = true)
    (hpatient : ¬ now < v.wait.ignoresUntil) :
    v.lookOut m s .empty now = v.lookOutAlone m s now := by
  rw [lookOut_eq hplaced hpatient]
  unfold lookOutAlone lookAhead
  refine congrArg _ (funext fun w => ?_)
  rw [show Surroundings.empty.vehicles = (Occupancy.empty : Occupancy α) from rfl, lookFrom_empty]
  rfl

/-- A vehicle that is placed on the ring or on the ramp and moved on to a time, and whether both
have been possible. -/
private def movedOnRing (word : UInt32) (point : PointId) (now : Millis) :
    Logged Rat (Bool × Vehicle Rat (Tape fun _ _ => 0)) := do
  let (placed, v) ← placeOnRing word point
  let (moved, v) ← v.update ringWithRamp evenRoadSettings now
  return (placed.isOk && moved.isOk, v)

private theorem driving_of_movedOnRing {word : UInt32} {point : PointId} {now : Millis}
    (h : (movedOnRing word point now #[]).1.isOk = true) (hok : (answerOf _ h).1 = true) :
    Driving ringWithRamp evenRoadSettings (answerOf _ h).2 :=
  driving_of_placedAndMoved rfl h hok

/-- What a vehicle makes of an empty road. -/
private def lookingOut (now : Millis) (v : Vehicle Rat (Tape fun _ _ => 0)) :
    Logged Rat (Vehicle Rat (Tape fun _ _ => 0)) :=
  v.lookOutAlone ringWithRamp evenRoadSettings now

private theorem lookOut_lookingOut {now : Millis} {v : Vehicle Rat (Tape fun _ _ => 0)}
    (hplaced : v.placed = true) (hpatient : ¬ now < v.wait.ignoresUntil)
    (h : (v.lookingOut now #[]).1.isOk = true) :
    Answers (v.lookOut ringWithRamp evenRoadSettings .empty now) (answerOf _ h) := by
  rw [lookOut_empty hplaced hpatient]
  exact answers_lift (answers_answerOf h)

private theorem beforeExit : (movedOnRing 0 ⟨2⟩ 3000 #[]).1.isOk = true := by decide +kernel

private theorem lookAtExit :
    (((answerOf _ beforeExit).2).lookingOut 3000 #[]).1.isOk = true := by decide +kernel

/-- A vehicle that means to leave the ring says so, and leaves it. -/
theorem signal_before_exit :
    (answerOf _ lookAtExit).signal.indicator = (ringWithRamp.junction ⟨0⟩).whenTaken ∧
    ∃ u, Rolls ringWithRamp evenRoadSettings (answerOf _ lookAtExit) u ∧
      u.segment.start = (ringWithRamp.junction ⟨0⟩).start ∧
      u.segment.finish = (ringWithRamp.junction ⟨0⟩).finish := by
  have hlook : Answers (((answerOf _ beforeExit).2).lookOut ringWithRamp evenRoadSettings .empty
      3000) (answerOf _ lookAtExit) :=
    lookOut_lookingOut (by decide +kernel) (by decide +kernel) lookAtExit
  have hdriving := driving_of_movedOnRing beforeExit (by decide +kernel)
  obtain ⟨taken, hindicator, hway⟩ := lookOut_announces (j := ⟨0⟩) ringWithRamp_validated hdriving
    hlook (by decide +kernel) (by decide +kernel)
  obtain ⟨u, hu, hstart, hdecided⟩ : ∃ u, Rolls ringWithRamp evenRoadSettings
      (answerOf _ lookAtExit) u ∧ u.segment.start = (ringWithRamp.junction ⟨0⟩).start ∧
      u.walker.decided ⟨0⟩ = some true :=
    ⟨_, .tail (.single (.departs 6000))
      (.passes ⟨by decide +kernel, ⟨4⟩, _, Prod.ext (by decide +kernel) rfl, rfl⟩),
      by decide +kernel, by decide +kernel⟩
  obtain ⟨htaken, hfinish⟩ := (hway u hu hstart).2 ⟨0⟩ (by rw [hstart]; decide +kernel) (by
    rw [hstart]
    rintro ⟨hprevious, -⟩
    exact absurd hprevious (by decide +kernel))
  obtain rfl : taken = true := Option.some.inj (htaken.symm.trans hdecided)
  exact ⟨hindicator, u, hu, hstart, hfinish⟩

private theorem beforeEnd : (movedOnRing 0xFFFFFFFF ⟨4⟩ 900 #[]).1.isOk = true := by
  decide +kernel

private theorem lookAtEnd :
    (((answerOf _ beforeEnd).2).lookingOut 900 #[]).1.isOk = true := by decide +kernel

/-- A vehicle on the ramp means to pass the junction at the end of the ramp by, and says so. Then it
goes through the junction, because there is no other way. -/
theorem signal_at_end_of_lane :
    Driving ringWithRamp evenRoadSettings (answerOf _ beforeEnd).2 ∧
    Answers ((answerOf _ beforeEnd).2.lookOut ringWithRamp evenRoadSettings .empty 900)
      (answerOf _ lookAtEnd) ∧
    (answerOf _ beforeEnd).2.signal.junction = none ∧
    (answerOf _ lookAtEnd).signal.junction = some ⟨1⟩ ∧
    (answerOf _ lookAtEnd).signal.indicator = (ringWithRamp.junction ⟨1⟩).whenPassed ∧
    (ringWithRamp.junction ⟨1⟩).whenPassed ≠ (ringWithRamp.junction ⟨1⟩).whenTaken ∧
    ∃ u, Rolls ringWithRamp evenRoadSettings (answerOf _ lookAtEnd) u ∧
      u.segment.start = (ringWithRamp.junction ⟨1⟩).start ∧
      u.segment.finish = (ringWithRamp.junction ⟨1⟩).finish :=
  ⟨driving_of_movedOnRing beforeEnd (by decide +kernel),
    lookOut_lookingOut (by decide +kernel) (by decide +kernel) lookAtEnd, by decide +kernel,
    by decide +kernel, by decide +kernel, by decide +kernel, _,
    .tail (.tail (.single (.departs 8000))
      (.passes ⟨by decide +kernel, ⟨6⟩, _, Prod.ext (by decide +kernel) rfl, rfl⟩))
      (.passes ⟨by decide +kernel, ⟨1⟩, _, Prod.ext (by decide +kernel) rfl, rfl⟩),
    by decide +kernel, by decide +kernel⟩

end Vehicle

end RoadTraffic
