import RoadTraffic.Proofs.Route.Retrace
import RoadTraffic.Proofs.Vehicle.Route

/-!
# Tangents along a route

The curve of a segment begins in the direction from the point before it to the point after its
start, and ends likewise. So the curves of two segments meet smoothly if one step back from their
common point leads to the start of the first one. A walk back does not always lead to where the
walker came from: it follows a junction that the walker means to take, even where the walker arrived
along the lane (`tryPrevious_follows_junction`). This is the only exception
(`tryPrevious_and_tangents`).
-/

namespace RoadTraffic

namespace Vehicle

variable {α ρ : Type} [Scalar α] [RandomSource ρ] {m : RoadMap α} {s : Settings α}
  {v v' : Vehicle α ρ}

/-- The tangents of two segments that follow on each other are the same where they meet, unless the
walker means to take a junction to there from elsewhere. -/
theorem Passes.startTangent (hl : m.Linked) (hv : OnRoute m v) (h : Passes m v v')
    (hfrom : ∀ j, (m.point v'.segment.start).merge = some j → v'.walker.decided j = some true →
      (m.junction j).start = v.segment.start) :
    (v'.fitTangents m).segment.startTangent = (v.fitTangents m).segment.finishTangent := by
  have hkeeps := (h.onRoute hl hv).2
  obtain ⟨through, hmade, -⟩ := hv.made
  obtain ⟨-, next, walker, hnext, rfl⟩ := h
  have hback := Walker.tryPrevious_eq_source hl (hmade.keeps hkeeps) hfrom
  have hquiet := hv.arrived.quiet hl
  -- both are half the way from the start of the first segment to the finish of the second one
  show Vehicle.startTangent m v.segment.finish next (Walker.tryPrevious m v.segment.finish _).1 =
    finishTangent m v.segment.start v.segment.finish
      ((v.walker.tryPrevious m v.segment.start).2.tryNext m v.segment.finish).1
  rw [hquiet, hnext]
  refine (congrArg (fun back => Vehicle.startTangent m v.segment.finish next back.1) hback).trans ?_
  rfl

/-- To fit the tangents again changes nothing at the finish. -/
theorem Driving.finishTangent_fitTangents (hl : m.Linked) (hv : Driving m s v) :
    (v.fitTangents m).segment.finishTangent = v.segment.finishTangent := by
  obtain ⟨hon, after, htangent, hagain⟩ := hv.onRoute hl
  have hquiet := hon.arrived.quiet hl
  show finishTangent m v.segment.start v.segment.finish
    ((v.walker.tryPrevious m v.segment.start).2.tryNext m v.segment.finish).1 = _
  rw [hquiet, hagain v.walker (.refl _), htangent]

theorem place_start {point : PointId} {now : Millis} {renewed : Bool}
    (h : Answers (v.place m s point now renewed) (.ok (), v')) : v'.segment.start = point := by
  obtain ⟨next, walker, -, hkeeps⟩ := place_ok h
  rw [hkeeps.segment]
  rfl

/-- **One step back.** From the end of its first walk a walker goes one step back to where it came
from, if and only if it never came there through a junction from elsewhere; otherwise it goes back
through that junction.

A vehicle that is moved on departs, passes points and has its tangents fitted, or it is placed at
the origin. The tangent at the start of a segment that it enters is the one at the finish of the
segment that it leaves, unless its walker means to take a junction to there from elsewhere; and the
one at the finish is not changed by fitting the tangents again. -/
theorem tryPrevious_and_tangents (hm : m.Validated) :
    (∀ (w : Walker ρ) (start finish : PointId) (n : Nat) (w' : Walker ρ),
      w.remembers = true → w.decisions = [] → w.next m start (n + 1) = (some finish, w') →
      ∃ p, (w.next m start n).1 = some p ∧
        ((w'.tryPrevious m finish).1 = some p ↔
          ∀ t ∈ w.ahead m (n + 1) start, t.target = finish → t.through = true → t.source = p) ∧
        ∀ t ∈ w.ahead m (n + 1) start, t.target = finish → t.through = true →
          (w'.tryPrevious m finish).1 = some t.source) ∧
    ∀ (v : Vehicle α ρ) (now : Millis), Driving m s v →
      (∀ v', v.placed = true → Answers (v.update m s now) (.ok (), v') →
        (∃ u, Relation.ReflTransGen (Passes m) (v.depart now) u ∧
          v' = (u.fitTangents m).report m s now) ∨ v'.segment.start = m.origin) ∧
      (∀ u u', Relation.ReflTransGen (Passes m) (v.depart now) u → Passes m u u' →
        (∀ j, (m.point u'.segment.start).merge = some j → u'.walker.decided j = some true →
          (m.junction j).start = u.segment.start) →
        (u'.fitTangents m).segment.startTangent = (u.fitTangents m).segment.finishTangent) ∧
      ((v.depart now).fitTangents m).segment.finishTangent = v.segment.finishTangent := by
  have hl := hm.linked
  refine ⟨fun w start finish n w' hw hfresh h => Walker.tryPrevious_of_next hl hw hfresh h,
    fun v now hv => ⟨fun v' hplaced h => ?_, fun u u' hu hpass hfrom => ?_, ?_⟩⟩
  · rcases update_cases h with ⟨hoff, -⟩ | ⟨u, hu, rfl | hplace⟩
    · rw [hplaced] at hoff
      cases hoff
    · exact Or.inl ⟨u, hu, rfl⟩
    · exact Or.inr (place_start hplace)
  · have hon := ((rolls_of_passes (s := s) hu).onRoute hl (hv.onRoute hl).1).1
    exact hpass.startTangent hl hon hfrom
  · have hfitted := hv.finishTangent_fitTangents hl
    exact hfitted

/-- A walker comes from the ramp to the ring and once around it. One step back from there it is not
on the ring, where it came from, but on the ramp. -/
theorem tryPrevious_follows_junction :
    ringWithRamp.Validated ∧
    ((repeatingWalker 0xFFFFFFFF).next ringWithRamp ⟨4⟩ 7).1 = some ⟨1⟩ ∧
    ((repeatingWalker 0xFFFFFFFF).next ringWithRamp ⟨4⟩ 6).1 = some ⟨0⟩ ∧
    (((repeatingWalker 0xFFFFFFFF).next ringWithRamp ⟨4⟩ 7).2.tryPrevious ringWithRamp ⟨1⟩).1 ≠
      some ⟨0⟩ :=
  ⟨ringWithRamp_validated, by decide +kernel, by decide +kernel, by decide +kernel⟩

/-- Settings that give all vehicles the same speed. -/
def evenRoadSettings : Settings Rat := { Settings.standard with speedVariation := 0 }

/-- A vehicle whose walker draws the same word over and over, as it is placed on the ring or on the
ramp. -/
def placeOnRing (word : UInt32) (point : PointId) :
    Logged Rat (Except DeadEnd Unit × Vehicle Rat (Tape fun _ _ => 0)) :=
  Vehicle.place ringWithRamp evenRoadSettings point 0 true
    { Vehicle.new ⟨SlotKey.nth 0, 0⟩ evenRoadSettings.profile evenRoadSettings 0 with
      walker := repeatingWalker word }

theorem driving_of_placeOnRing {word : UInt32} {point : PointId}
    (h : (placeOnRing word point #[]).1.isOk = true) (hok : (answerOf _ h).1 = .ok ()) :
    Driving ringWithRamp evenRoadSettings (answerOf _ h).2 := by
  have hplace := answers_lift (answers_answerOf h)
  rw [show answerOf _ h = (.ok (), (answerOf _ h).2) from Prod.ext hok rfl] at hplace
  exact .placed rfl hplace

/-- A vehicle that is placed on the road and moved on to a time, and whether both have been
possible. -/
def placedAndMoved (m : RoadMap α) (s : Settings α) (point : PointId) (now : Millis)
    (v : Vehicle α ρ) : Logged α (Bool × Vehicle α ρ) := do
  let (placed, v) ← v.place m s point 0 true
  let (moved, v) ← v.update m s now
  return (placed.isOk && moved.isOk, v)

theorem eq_ok_of_isOk {ε : Type} {outcome : Except ε Unit} (h : outcome.isOk = true) :
    outcome = .ok () := by
  cases outcome with
  | ok _ => rfl
  | error _ => cases h

theorem driving_of_placedAndMoved {point : PointId} {now : Millis} {v : Vehicle α ρ}
    (hw : v.walker.remembers = true) (h : (v.placedAndMoved m s point now #[]).1.isOk = true)
    (hok : (answerOf _ h).1 = true) : Driving m s (answerOf _ h).2 := by
  obtain ⟨⟨placed, v⟩, hplace, hanswer⟩ := answers_bind (answers_answerOf h)
  obtain ⟨⟨moved, v'⟩, hupdate, hanswer⟩ := answers_bind hanswer
  rw [answers_pure hanswer] at hok ⊢
  obtain ⟨hplaced, hmoved⟩ := Bool.and_eq_true_iff.mp hok
  cases eq_ok_of_isOk hplaced
  cases eq_ok_of_isOk hmoved
  exact .updated (.placed hw (answers_lift hplace)) hupdate

private theorem leavingRamp : (placeOnRing 0 ⟨6⟩ #[]).1.isOk = true := by decide +kernel

/-- A vehicle on its way from the end of the ramp to the ring. -/
private def onJunction : Vehicle Rat (Tape fun _ _ => 0) := (answerOf _ leavingRamp).2

private theorem enteringRing :
    (onJunction.update ringWithRamp evenRoadSettings 10000 #[]).1.isOk = true := by decide +kernel

/-- A walker comes by way of the ramp to the ring and goes back to the ramp. A vehicle that does the
same enters the ring with the tangent that the junction ended with. -/
theorem tangents_meet_on_ring :
    (∃ p, ((repeatingWalker 0).next ringWithRamp ⟨2⟩ 4).1 = some p ∧
      (((repeatingWalker 0).next ringWithRamp ⟨2⟩ 5).2.tryPrevious ringWithRamp ⟨1⟩).1 = some p) ∧
    (∃ u, Relation.ReflTransGen (Passes ringWithRamp) (onJunction.depart 10000) u ∧
      (answerOf _ enteringRing).2 = (u.fitTangents ringWithRamp).report ringWithRamp
        evenRoadSettings 10000) ∧
    ∃ u, Passes ringWithRamp (onJunction.depart 10000) u ∧ u.segment.start = ⟨1⟩ ∧
      (u.fitTangents ringWithRamp).segment.startTangent = onJunction.segment.finishTangent := by
  have hwalk : (repeatingWalker 0).next ringWithRamp ⟨2⟩ (4 + 1) =
      (some ⟨1⟩, ((repeatingWalker 0).next ringWithRamp ⟨2⟩ 5).2) :=
    Prod.ext (by decide +kernel) rfl
  have hdriving : Driving ringWithRamp evenRoadSettings onJunction :=
    driving_of_placeOnRing leavingRamp (by decide +kernel)
  have hupdate : Answers (onJunction.update ringWithRamp evenRoadSettings 10000)
      (.ok (), (answerOf _ enteringRing).2) := by
    have hanswer := answers_answerOf enteringRing
    rw [show answerOf _ enteringRing = (.ok (), (answerOf _ enteringRing).2) from
      Prod.ext (by decide +kernel) rfl] at hanswer
    exact hanswer
  obtain ⟨hback, hdrive⟩ := tryPrevious_and_tangents (ρ := Tape fun _ _ => 0)
    (s := evenRoadSettings) ringWithRamp_validated
  obtain ⟨p, hp, hsource, -⟩ := hback _ _ _ _ _ rfl rfl hwalk
  obtain ⟨hends, hmeet, hfitted⟩ := hdrive _ 10000 hdriving
  obtain ⟨u, hpass, hstart⟩ : ∃ u, Passes ringWithRamp (onJunction.depart 10000) u ∧
      u.segment.start = ⟨1⟩ :=
    ⟨_, ⟨by decide +kernel, ⟨2⟩, _, Prod.ext (by decide +kernel) rfl, rfl⟩, by decide +kernel⟩
  have hramp : ∀ j, (ringWithRamp.point ⟨1⟩).merge = some j →
      (ringWithRamp.junction j).start = (onJunction.depart 10000).segment.start := by
    intro j hj
    rw [show (ringWithRamp.point ⟨1⟩).merge = some ⟨1⟩ by decide +kernel, Option.some.injEq] at hj
    rw [← hj]
    decide +kernel
  refine ⟨⟨p, hp, hsource.mpr ?_⟩, ?_, u, hpass, hstart, ?_⟩
  · obtain rfl : p = ⟨6⟩ := by
      rw [show ((repeatingWalker 0).next ringWithRamp ⟨2⟩ 4).1 = some ⟨6⟩ by decide +kernel] at hp
      exact (Option.some.inj hp).symm
    decide +kernel
  · rcases hends _ (by decide +kernel) hupdate with hu | horigin
    · exact hu
    · exact absurd horigin (by decide +kernel)
  · rw [hmeet _ _ .refl hpass fun j hj _ => hramp j (hstart ▸ hj), hfitted]

end Vehicle

end RoadTraffic
