import RoadTraffic.Proofs.Roads.Origin
import RoadTraffic.Proofs.Vehicle.Drive
import RoadTraffic.Proofs.Vehicle.Placement
import RoadTraffic.Proofs.Vehicle.SpeedBounds

/-!
# Vehicles stay on the road

A vehicle on the road is on a way of the map, somewhere between its beginning and its end
(`Vehicle.OnRoad`). A drive passes points until this is so again; it does because speeds are never
below zero (`Arises.bounded`), so that a vehicle never comes to lie before the beginning of its
segment.

A drive may also end at a point from which no way leads on. Then the vehicle restarts at the origin
of the map, where it could be stranded for good if no way led on from there either. On maps that
were built one does (`RoadBuilder.origin_leads`).
-/

namespace RoadTraffic

namespace Vehicle

open ExactScalar

section

variable {α ρ : Type} [Scalar α] [RandomSource ρ] {m : RoadMap α} {s : Settings α}
  {v v' u u' : Vehicle α ρ}

/-- A vehicle that is placed begins a way from the point, if any leads on from there. -/
theorem place_onWay {point : PointId} {now : Millis} {renewed : Bool}
    {outcome : Except DeadEnd Unit} (h : Answers (v.place m s point now renewed) (outcome, v')) :
    (∀ q, ¬ m.Leads point q) ∧ (∃ walker, v' = { v with walker }) ∨
      outcome = .ok () ∧ OnWay m v' ∧ v'.Begins point ∧ v'.placed = true := by
  rcases place_cases h with ⟨hnone, hkept⟩ | ⟨rfl, w, rfl, hbegins, hplaced⟩
  · exact Or.inl ⟨Walker.not_leads_of_tryNext hnone, hkept⟩
  · obtain ⟨next, walker, hnext, hkeeps⟩ := place_ok h
    refine Or.inr ⟨rfl, ⟨?_, ?_⟩, ⟨hbegins.start, hbegins.progress⟩, hplaced⟩
    · rw [hkeeps.segment]
      exact Walker.leads_of_tryNext hnext
    · rw [hkeeps.segment]
      rfl

/-! ## Where a drive ends -/

/-- What passes a point comes to one place only. -/
theorem passes_unique : Relator.RightUnique (Passes (ρ := ρ) m) := by
  rintro v u u' ⟨-, next, walker, hnext, rfl⟩ ⟨-, next', walker', hnext', rfl⟩
  rw [hnext, Prod.mk.injEq, Option.some.injEq] at hnext'
  obtain ⟨rfl, rfl⟩ := hnext'
  rfl

/-- Points are passed up to one place from where no more are. -/
theorem end_unique (hu : Relation.ReflTransGen (Passes m) v u)
    (hu' : Relation.ReflTransGen (Passes m) v u') (hend : ∀ w, ¬ Passes m u w)
    (hend' : ∀ w, ¬ Passes m u' w) : u = u' := by
  have hstays : ∀ {u u' : Vehicle α ρ}, Relation.ReflTransGen (Passes m) u u' →
      (∀ w, ¬ Passes m u w) → u = u' := by
    intro u u' h hend
    rcases h.cases_head with rfl | ⟨w, hpass, -⟩
    · rfl
    · exact absurd hpass (hend w)
  rcases Relation.ReflTransGen.total_of_right_unique passes_unique hu hu' with h | h
  · exact hstays h hend
  · exact (hstays h hend').symm

theorem not_passes_of_none (h : (u.walker.tryNext m u.segment.finish).1 = none) :
    ∀ w, ¬ Passes m u w := by
  rintro w ⟨-, next, walker, hnext, -⟩
  rw [hnext] at h
  cases h

/-- On its way until a time the vehicle comes past the end of a segment from which no way leads
on. -/
def RunsIntoDeadEnd (m : RoadMap α) (now : Millis) (v : Vehicle α ρ) : Prop :=
  ∃ u, Relation.ReflTransGen (Passes m) (v.depart now) u ∧ u.segment.length < u.progress ∧
    ∀ q, ¬ m.Leads u.segment.finish q

/-- A vehicle that runs into a dead end is placed at the origin. -/
theorem place_of_deadEnd {now : Millis} {outcome : Except DeadEnd Unit} (hplaced : v.placed = true)
    (hdead : v.RunsIntoDeadEnd m now) (h : Answers (v.update m s now) (outcome, v')) :
    ∃ u, Relation.ReflTransGen (Passes m) (v.depart now) u ∧
      Answers ((u.stranded m).place m s m.origin now false) (outcome, v') := by
  obtain ⟨w, hw, hpast, hno⟩ := hdead
  have hnone : (w.walker.tryNext m w.segment.finish).1 = none := by
    rcases hnext : w.walker.tryNext m w.segment.finish with ⟨_ | q, walker⟩
    · rfl
    · exact absurd (Walker.leads_of_tryNext hnext) (hno q)
  rcases update_ends h with ⟨hoff, -⟩ | ⟨-, u, hu, ⟨hshort, -⟩ | ⟨-, -, hplace⟩⟩
  · rw [hplaced] at hoff
    cases hoff
  · have hsame := end_unique hw hu (not_passes_of_none hnone) fun _ hpass => hshort hpass.1
    exact absurd (hsame ▸ hpast) hshort
  · exact ⟨u, hu, hplace⟩

end

variable {K ρ : Type} [Field K] [LinearOrder K] [IsStrictOrderedRing K] [Scalar K] [ExactScalar K]
  [RandomSource ρ] {m : RoadMap K} {s : Settings K} {v v' u : Vehicle K ρ}

/-! ## On the road -/

/-- The vehicle is on a way of the map, between its beginning and its end. -/
structure OnRoad (m : RoadMap K) (v : Vehicle K ρ) : Prop where
  way : OnWay m v
  progress_nonneg : 0 ≤ v.progress
  progress_le : v.progress ≤ v.segment.length

omit [IsStrictOrderedRing K] [ExactScalar K] [RandomSource ρ] in
theorem OnRoad.of_eq (h : OnRoad m v) (hsegment : v'.segment = v.segment)
    (hprogress : v'.progress = v.progress) : OnRoad m v' := by
  refine ⟨⟨?_, ?_⟩, hprogress ▸ h.progress_nonneg, ?_⟩
  · rw [hsegment]
    exact h.way.leads
  · rw [hsegment]
    exact h.way.length
  · rw [hsegment, hprogress]
    exact h.progress_le

omit [RandomSource ρ] in
theorem onRoad_of_begins {point : PointId} (hway : OnWay m v) (hv : v.Begins point) :
    OnRoad m v := by
  have hprogress : v.progress = 0 := by
    rw [hv.progress, scalar_ofNat_eq, Nat.cast_zero]
  refine ⟨hway, hprogress.ge, ?_⟩
  rw [hprogress, hway.length]
  exact Vec3.distance_nonneg _ _

omit [RandomSource ρ] in
theorem depart_progress_nonneg (hv : v.Bounded) (hprogress : 0 ≤ v.progress) (now : Millis) :
    0 ≤ (v.depart now).progress := by
  show 0 ≤ @HAdd.hAdd K K K (@instHAdd K Scalar.instAdd) v.progress
    (v.speed.advance _ v.maxSpeed).1
  rw [scalar_add_eq]
  refine add_nonneg hprogress (hv.speed.distance_nonneg ?_)
  rw [scalar_div_eq, ExactScalar.ofNat_eq, scalar_ofNat_eq]
  positivity

/-- Points are passed on ways of the map, and only as long as there is progress left. -/
theorem onWay_of_passes (h : Relation.ReflTransGen (Passes m) v u) (hway : OnWay m v)
    (hprogress : 0 ≤ v.progress) : OnWay m u ∧ 0 ≤ u.progress := by
  induction h with
  | refl => exact ⟨hway, hprogress⟩
  | tail _ hpass _ =>
    obtain ⟨hway, -, hrest⟩ := hpass.onWay
    have hpast := hpass.1
    rw [scalar_lt_iff] at hpast
    rw [hrest, scalar_sub_eq]
    exact ⟨hway, sub_nonneg.mpr hpast.le⟩

theorem place_onRoad {point : PointId} {now : Millis} {renewed : Bool}
    {outcome : Except DeadEnd Unit} (hv : v.placed = true → OnRoad m v)
    (h : Answers (v.place m s point now renewed) (outcome, v')) :
    v'.placed = true → OnRoad m v' := by
  rcases place_onWay h with ⟨-, walker, rfl⟩ | ⟨-, hway, hbegins, -⟩
  · exact fun hplaced => (hv hplaced).of_eq rfl rfl
  · exact fun _ => onRoad_of_begins hway hbegins

theorem update_onRoad (horigin : ∃ q, m.Leads m.origin q) (hb : v.Bounded)
    (hv : v.placed = true → OnRoad m v) {now : Millis} {outcome : Except DeadEnd Unit}
    (h : Answers (v.update m s now) (outcome, v')) :
    outcome = .ok () ∧ (v'.placed = true → OnRoad m v') := by
  rcases update_ends h with ⟨-, rfl, rfl⟩ | ⟨hplaced, u, hu, ⟨hshort, rfl, rfl⟩ | ⟨-, -, hplace⟩⟩
  · exact ⟨rfl, hv⟩
  · have hon := hv hplaced
    obtain ⟨hway, hprogress⟩ := onWay_of_passes hu ⟨hon.way.leads, hon.way.length⟩
      (depart_progress_nonneg hb hon.progress_nonneg now)
    rw [scalar_lt_iff, not_lt] at hshort
    exact ⟨rfl, fun _ => ⟨⟨hway.leads, hway.length⟩, hprogress, hshort⟩⟩
  · rcases place_onWay hplace with ⟨hno, -⟩ | ⟨hok, hway, hbegins, -⟩
    · obtain ⟨q, hq⟩ := horigin
      exact absurd hq (hno q)
    · exact ⟨hok, fun _ => onRoad_of_begins hway hbegins⟩

theorem Arises.onRoad (horigin : ∃ q, m.Leads m.origin q) (hs : s.Moderate) (h : Arises m s v) :
    v.placed = true → OnRoad m v := by
  induction h with
  | begins => exact nofun
  | placed _ h ih => exact place_onRoad ih h
  | moved hv h ih => exact (update_onRoad horigin (hv.bounded hs) ih h).2
  | lookedOut _ h ih =>
    obtain ⟨random, wait, walker, signal, speed, maxSpeed, rfl⟩ := lookOut_changes h
    exact fun hplaced => (ih hplaced).of_eq rfl rfl
  | aimed _ target deceleration acceleration ih => exact fun hplaced => (ih hplaced).of_eq rfl rfl
  | removed => exact nofun

/-- **A vehicle is always on the road.** On a map that was built, a vehicle that is placed is on its
way from its point to the next one or to the end of the junction that starts there, however it came
about. Moving it on never fails, and where it runs into a dead end it is back at the beginning of
the way from the origin afterwards, with the speed that it had. -/
theorem Arises.on_the_road {ops : List (RoadBuilder.Operation K)}
    (hm : (RoadBuilder.empty.after ops).build = .ok m) (hs : s.Moderate) (h : Arises m s v) :
    (v.placed = true →
      ((m.point v.segment.start).next = some v.segment.finish ∨
        ∃ j, (m.point v.segment.start).branch = some j ∧
          (m.junction j).finish = v.segment.finish) ∧
      v.segment.length = m.distance v.segment.start v.segment.finish ∧
      0 ≤ v.progress ∧ v.progress ≤ v.segment.length) ∧
    ∀ now outcome v', Answers (v.update m s now) (outcome, v') →
      outcome = .ok () ∧
      (v.placed = true → v.RunsIntoDeadEnd m now →
        v'.placed = true ∧ v'.segment.start = m.origin ∧ v'.progress = 0 ∧
          v'.speed = (v.depart now).speed ∧ v'.maxSpeed = v.maxSpeed ∧
          v'.initialMaxSpeed = v.initialMaxSpeed) := by
  have horigin := RoadBuilder.origin_leads hm
  have hon := h.onRoad horigin hs
  refine ⟨fun hplaced => ?_, fun now outcome v' hupdate =>
    ⟨(update_onRoad horigin (h.bounded hs) hon hupdate).1, fun hplaced hdead => ?_⟩⟩
  · obtain ⟨⟨hleads, hlength⟩, hprogress, hle⟩ := hon hplaced
    exact ⟨RoadMap.leads_iff.mp hleads, hlength, hprogress, hle⟩
  · obtain ⟨u, hu, hplace⟩ := place_of_deadEnd hplaced hdead hupdate
    obtain ⟨segment, progress, walker, signal, rfl⟩ := passes_changes hu
    rcases place_onWay hplace with ⟨hno, -⟩ | ⟨-, -, hbegins, hplaced'⟩
    · obtain ⟨q, hq⟩ := horigin
      exact absurd hq (hno q)
    rcases place_speeds hplace with hkeeps | ⟨hrenewed, -⟩
    · refine ⟨hplaced', hbegins.start, ?_, hkeeps.speed, hkeeps.maxSpeed, hkeeps.initialMaxSpeed⟩
      rw [hbegins.progress, scalar_ofNat_eq, Nat.cast_zero]
    · cases hrenewed

/-- A lane of 100 m. -/
private def shortLane : RoadBuilder.Operation Rat :=
  .spline "lane" [.level ⟨0, 0, 0⟩, .level ⟨0, 0, 100⟩] false

/-- The graph that consists of it. -/
private def shortGraph : RoadBuilder Rat := RoadBuilder.empty.after [shortLane]

/-- The road of the lane. -/
private def shortRoad : RoadMap Rat where
  points := shortGraph.points.map shortGraph.measured
  junctions := shortGraph.junctions
  splines := shortGraph.splines
  tree := .ofSites ((shortGraph.points.map shortGraph.measured).toList.map fun p =>
    (p.position, p.id))

private theorem shortGraph_build : shortGraph.build = .ok shortRoad := by
  have hcheck : Validation.check (shortGraph.points.map shortGraph.measured)
      shortGraph.junctions shortGraph.splines = .ok () := by decide +kernel
  exact RoadMap.ofParts_eq_ok.mpr ⟨hcheck, rfl⟩

private def placingOnShortRoad :
    Logged Rat (Except DeadEnd Unit × Vehicle Rat (Tape fun _ _ => 0)) :=
  (Vehicle.new ⟨SlotKey.nth 0, 0⟩ Settings.standard.profile .standard 0).place shortRoad .standard
    ⟨0⟩ 0 true

/-- What comes of a vehicle that is placed on the lane. -/
private def onShortRoad : Except DeadEnd Unit × Vehicle Rat (Tape fun _ _ => 0) :=
  answerOf placingOnShortRoad (by decide +kernel)

/-- What comes of it when ten seconds have gone by. -/
private def offShortRoad : Except DeadEnd Unit × Vehicle Rat (Tape fun _ _ => 0) :=
  answerOf (onShortRoad.2.update shortRoad .standard 10000) (by decide +kernel)

/-- A vehicle that has come past the end of its lane is back at the beginning of the lane and drives
as fast as before. -/
theorem restarts_on_short_road :
    (RoadBuilder.empty.after [shortLane]).build = .ok shortRoad ∧
      Arises shortRoad .standard onShortRoad.2 ∧ onShortRoad.2.placed = true ∧
      onShortRoad.2.segment.finish = ⟨1⟩ ∧
      Answers (onShortRoad.2.update shortRoad .standard 10000) offShortRoad ∧
      offShortRoad.1 = .ok () ∧ offShortRoad.2.placed = true ∧
      offShortRoad.2.segment.start = ⟨0⟩ ∧ 0 < offShortRoad.2.speed.current ∧
      offShortRoad.2.speed = (onShortRoad.2.depart 10000).speed := by
  have hs : (Settings.standard : Settings Rat).Moderate :=
    ⟨by decide +kernel, by decide +kernel, by decide +kernel, by decide +kernel⟩
  have harises : Arises shortRoad .standard onShortRoad.2 :=
    .placed (.begins ⟨SlotKey.nth 0, 0⟩ _ 0) (answers_lift (answers_answerOf _))
  have hplaced : onShortRoad.2.placed = true := by decide +kernel
  have hend : ∀ q, ¬ shortRoad.Leads ⟨1⟩ q := by
    intro q hq
    unfold RoadMap.Leads at hq
    rw [show shortRoad.ways ⟨1⟩ = [] by decide +kernel] at hq
    cases hq
  have hfinish : onShortRoad.2.segment.finish = ⟨1⟩ := by decide +kernel
  have hdead : onShortRoad.2.RunsIntoDeadEnd shortRoad 10000 :=
    ⟨_, .refl, by decide +kernel, fun q hq => hend q (hfinish ▸ hq)⟩
  obtain ⟨-, hupdate⟩ := harises.on_the_road shortGraph_build hs
  have hanswer : Answers (onShortRoad.2.update shortRoad .standard 10000) offShortRoad :=
    answers_answerOf _
  obtain ⟨hok, hback⟩ := hupdate 10000 _ _ hanswer
  obtain ⟨hplaced', hstart, -, hspeed, -⟩ := hback hplaced hdead
  exact ⟨shortGraph_build, harises, hplaced, hfinish, hanswer, hok, hplaced', hstart,
    by decide +kernel, hspeed⟩

end Vehicle

end RoadTraffic
