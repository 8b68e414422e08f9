import RoadTraffic.Proofs.Vehicle.SpeedBounds
import RoadTraffic.Proofs.Vehicle.Tangents

/-!
# Vehicles that cannot be placed

A vehicle cannot be placed where neither a lane nor a junction leads on. It is told so and stays as
it was, with one exception: before it looks for a way on, its walker forgets what it has decided.

`place_fails_iff` says when that happens and what is left. The vehicle is the same as before exactly
if its walker had not decided anything. A vehicle that was on its way to a junction when somebody
tried in vain to place it may take another way than the one that it had chosen (`forgets_its_way`).
-/

namespace RoadTraffic

variable {α ρ : Type} [Scalar α] [RandomSource ρ] {m : RoadMap α}

/-- A walker goes nowhere exactly where neither a lane nor a junction leads on, and decides nothing
there. -/
theorem Walker.tryNext_eq_none_iff {point : PointId} {w w' : Walker ρ} :
    w.tryNext m point = (none, w') ↔
      (m.point point).next = none ∧ (m.point point).branch = none ∧ w' = w := by
  constructor
  · intro h
    have hno := not_leads_of_tryNext (m := m) (w := w) (congrArg Prod.fst h)
    have hnext : (m.point point).next = none := by
      cases hnext : (m.point point).next with
      | none => rfl
      | some q => exact absurd (RoadMap.leads_iff.mpr (Or.inl hnext)) (hno q)
    have hbranch : (m.point point).branch = none := by
      cases hbranch : (m.point point).branch with
      | none => rfl
      | some j => exact absurd (RoadMap.leads_iff.mpr (Or.inr ⟨j, hbranch, rfl⟩)) (hno _)
    have hstays : w.tryNext m point = (none, w) := by simp only [tryNext, choose, hbranch, hnext]
    exact ⟨hnext, hbranch, (Prod.mk.inj (h.symm.trans hstays)).2⟩
  · rintro ⟨hnext, hbranch, rfl⟩
    simp only [tryNext, choose, hbranch, hnext]

namespace Vehicle

variable {s : Settings α} {v v' : Vehicle α ρ} {point : PointId} {now : Millis} {renewed : Bool}

/-- Who is placed where no way leads on is told so, and only its walker knows. -/
theorem place_at_deadEnd (hpoint : point.index < m.size) (hnext : (m.point point).next = none)
    (hbranch : (m.point point).branch = none) :
    v.place m s point now renewed =
      .ok (.error ⟨point⟩, { v with walker := v.walker.clear }) := by
  have hnone : v.walker.clear.tryNext m point = (none, v.walker.clear) :=
    Walker.tryNext_eq_none_iff.mpr ⟨hnext, hbranch, rfl⟩
  have hdemand : m.demandPoint point = .ok (m.point point) := by
    rcases m.demandPoint_cases point with ⟨-, hdemand⟩ | ⟨houtside, -⟩
    · exact hdemand
    · exact absurd hpoint houtside
  unfold place
  rw [hdemand, hnone]
  rfl

/-- **A vehicle that cannot be placed only forgets its way.** Placing a vehicle fails exactly at a
point of the map from which neither a lane nor a junction leads on, and the failure names that
point. Then the vehicle has lost the decisions of its walker and nothing else: not its segment, not
its speed, not its signal, not a word of its two sources of randomness. So it is the same vehicle as
before exactly if its walker had not decided anything. -/
theorem place_fails_iff :
    (∀ e, v.place m s point now renewed = .ok (.error e, v') ↔
      (point.index < m.size ∧ (m.point point).next = none ∧ (m.point point).branch = none) ∧
        e = ⟨point⟩ ∧ v' = { v with walker := v.walker.clear }) ∧
    ({ v with walker := v.walker.clear } = v ↔ v.walker.decisions = []) := by
  refine ⟨fun e => ⟨fun h => ?_, ?_⟩, fun h => ?_, fun h => ?_⟩
  · have hpoint : point.index < m.size := by
      rcases m.demandPoint_cases point with ⟨hpoint, -⟩ | ⟨-, hdemand⟩
      · exact hpoint
      · unfold place at h
        rw [hdemand] at h
        cases h
    rcases place_ends (show Answers _ _ from h) with
      ⟨walker, hnone, he, rfl⟩ | ⟨next, walker, u, -, hok, -⟩
    · obtain ⟨hnext, hbranch, rfl⟩ := Walker.tryNext_eq_none_iff.mp hnone
      exact ⟨⟨hpoint, hnext, hbranch⟩, Except.error.inj he, rfl⟩
    · cases hok
  · rintro ⟨⟨hpoint, hnext, hbranch⟩, rfl, rfl⟩
    exact place_at_deadEnd hpoint hnext hbranch
  · exact (congrArg (·.walker.decisions) h).symm
  · unfold Walker.clear
    rw [← h]

/-- A point of a lane that goes straight on, or of the lane that branches off. -/
private def forkPoint (index : Nat) (x z : Rat) (next previous : Option PointId)
    (branch merge : Option JunctionId) : RoadPoint Rat :=
  { RoadPoint.unlinked ⟨index⟩ ⟨x, 0, z⟩ with
    next, previous, branch, merge, length := if next.isSome then 100 else 0 }

/-- A lane of three points, and one of two that half of the vehicles leave it for at the second
point. Both lanes lead nowhere. -/
private def fork : RoadMap Rat where
  points := #[
    forkPoint 0 0 0 (some ⟨1⟩) none none none,
    forkPoint 1 0 100 (some ⟨2⟩) (some ⟨0⟩) (some ⟨0⟩) none,
    forkPoint 2 0 200 none (some ⟨1⟩) none none,
    forkPoint 3 3 200 (some ⟨4⟩) none none (some ⟨0⟩),
    forkPoint 4 3 300 none (some ⟨3⟩) none none]
  junctions := #[{ Junction.plain ⟨1⟩ ⟨3⟩ (1 / 2) with whenTaken := .right, whenPassed := .left }]
  splines := [⟨"lane", [⟨0⟩, ⟨1⟩, ⟨2⟩], false⟩, ⟨"exit", [⟨3⟩, ⟨4⟩], false⟩]
  tree := .empty

/-- Words by which a walker takes the first junction that it is asked about, and no other one. -/
private def oneTurn (_seed : UInt64) (place : Nat) : UInt32 := if place < 2 then 0 else 0x80000000

private def placingBeforeFork : Logged Rat (Except DeadEnd Unit × Vehicle Rat (Tape oneTurn)) :=
  (Vehicle.new ⟨SlotKey.nth 0, 0⟩ evenRoadSettings.profile evenRoadSettings 0).place fork
    evenRoadSettings ⟨0⟩ 0 true

/-- A vehicle before the fork, which has decided how to go on. -/
private def beforeFork : Vehicle Rat (Tape oneTurn) :=
  (answerOf placingBeforeFork (by decide +kernel)).2

/-- The same vehicle after it was tried to place it at the end of the lane. -/
private def triedInVain : Vehicle Rat (Tape oneTurn) :=
  { beforeFork with walker := beforeFork.walker.clear }

/-- Where the two are six seconds later. -/
private def behindFork : Except DeadEnd Unit × Vehicle Rat (Tape oneTurn) :=
  answerOf (beforeFork.update fork evenRoadSettings 6000) (by decide +kernel)

private def behindForkInVain : Except DeadEnd Unit × Vehicle Rat (Tape oneTurn) :=
  answerOf (triedInVain.update fork evenRoadSettings 6000) (by decide +kernel)

/-- A vehicle that is before a fork has decided to leave its lane there. It is tried to place it at
the end of the lane, where no way leads on. That fails, and then the vehicle stays on its lane. -/
theorem forgets_its_way :
    fork.Validated ∧ Arises fork evenRoadSettings beforeFork ∧
      beforeFork.place fork evenRoadSettings ⟨2⟩ 0 true = .ok (.error ⟨⟨2⟩⟩, triedInVain) ∧
      triedInVain.walker.decisions ≠ beforeFork.walker.decisions ∧
      Answers (beforeFork.update fork evenRoadSettings 6000) behindFork ∧
      behindFork.2.segment.finish = ⟨3⟩ ∧
      Answers (triedInVain.update fork evenRoadSettings 6000) behindForkInVain ∧
      behindForkInVain.2.segment.finish = ⟨2⟩ := by
  have hvalid : fork.Validated := by
    unfold RoadMap.Validated
    decide +kernel
  have hfails : beforeFork.place fork evenRoadSettings ⟨2⟩ 0 true =
      .ok (.error ⟨⟨2⟩⟩, triedInVain) :=
    place_at_deadEnd (by decide +kernel) (by decide +kernel) (by decide +kernel)
  exact ⟨hvalid, .placed (.begins ⟨SlotKey.nth 0, 0⟩ _ 0) (answers_lift (answers_answerOf _)),
    hfails, by decide +kernel, answers_answerOf _, by decide +kernel, answers_answerOf _,
    by decide +kernel⟩

end Vehicle

end RoadTraffic
