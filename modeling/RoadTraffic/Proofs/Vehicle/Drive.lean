import Mathlib.Algebra.Order.Archimedean.Basic
import RoadTraffic.Proofs.Geometry.Exact
import RoadTraffic.Proofs.Random.Tape
import RoadTraffic.Proofs.Roads.Circuits
import RoadTraffic.Proofs.Roads.SideBySide
import RoadTraffic.Proofs.Vehicle.Route
import RoadTraffic.Roads.Builder
import RoadTraffic.Roads.Ring

/-!
# Which drives come to an end

A drive passes points until the vehicle is on a segment longer than its progress. Each segment that
it passes makes the progress smaller by its length, so in exact arithmetic only ways without length
keep it going. Where no chain of them comes back to where it began, every drive ends, whatever the
vehicle, its route and its speed are (`arrives`). Where one does, there are vehicles that go round
it without end (`exists_endless`).
-/

namespace RoadTraffic

namespace Walker

variable {α ρ : Type} [Scalar α] [RandomSource ρ] {m : RoadMap α} {w w' : Walker ρ}

/-- A step goes along the lane or through the junction. -/
theorem choose_cases {j : Option JunctionId} {through : JunctionId → PointId}
    {along : Option PointId} {q : PointId} (h : (w.choose m j through along).1 = some q) :
    along = some q ∨ ∃ k, j = some k ∧ through k = q := by
  unfold choose at h
  split at h
  · exact Or.inl h
  · next k =>
    split at h
    · exact Or.inr ⟨k, rfl, Option.some.inj h⟩
    · split at h
      · exact Or.inr ⟨k, rfl, Option.some.inj h⟩
      · exact Or.inl h

/-- Wherever a walker goes, the way leads there. -/
theorem leads_of_tryNext {p q : PointId} (h : w.tryNext m p = (some q, w')) : m.Leads p q := by
  refine RoadMap.leads_iff.mpr (choose_cases (m := m) (w := w) ?_)
  unfold tryNext at h
  dsimp only at h
  split at h
  · next hchoose => rw [hchoose]; exact congrArg Prod.fst h
  · next hchoose => rw [hchoose]; exact congrArg Prod.fst h

/-- Where a walker goes nowhere, no way leads on. -/
theorem not_leads_of_tryNext {p : PointId} (h : (w.tryNext m p).1 = none) (q : PointId) :
    ¬ m.Leads p q := by
  have hchoose : (w.choose m (m.point p).branch (fun j => (m.junction j).finish)
      (m.point p).next).1 = none := by
    unfold tryNext at h
    dsimp only at h
    split at h
    · cases h
    · next hchoose => rw [hchoose]; exact h
  rw [RoadMap.leads_iff]
  unfold choose at hchoose
  split at hchoose
  · next hbranch =>
    rw [hbranch, show (m.point p).next = none from hchoose]
    rintro (h | ⟨j, h, -⟩) <;> cases h
  · split at hchoose
    · cases hchoose
    · next hnext =>
      split at hchoose
      · cases hchoose
      · exact absurd (Option.isNone_iff_eq_none.mpr hchoose) hnext

/-- Where there is no junction a walker goes along the lane and decides nothing. -/
theorem tryNext_plain {p q : PointId} (hbranch : (m.point p).branch = none)
    (hnext : (m.point p).next = some q) (hmerge : (m.point q).merge = none) :
    w.tryNext m p = (some q, w) := by
  simp only [tryNext, choose, hbranch, hnext, hmerge, inferPassed]

/-- A walker that has decided about some junctions, and about each of them as `taken` says. -/
def knowing (junctions : List JunctionId) (taken : JunctionId → Bool) (random : ρ) : Walker ρ :=
  ⟨junctions.map fun j => (j, taken j), true, random⟩

omit [RandomSource ρ] in
theorem decided_knowing {junctions : List JunctionId} {taken : JunctionId → Bool} {random : ρ}
    {j : JunctionId} (hj : j ∈ junctions) :
    (knowing junctions taken random).decided j = some (taken j) := by
  show (junctions.map fun j => (j, taken j)).lookup j = some (taken j)
  induction junctions with
  | nil => cases hj
  | cons k rest ih =>
    rw [List.map_cons, List.lookup_cons]
    by_cases hjk : j = k
    · rw [hjk, beq_self_eq_true]
    · rw [beq_eq_false_iff_ne.mpr hjk]
      exact ih (List.mem_of_ne_of_mem hjk hj)

/-- The junctions that the points of a map name. -/
def junctionsOf (m : RoadMap α) : List JunctionId :=
  (List.range m.size).flatMap fun i => (m.point ⟨i⟩).branch.toList ++ (m.point ⟨i⟩).merge.toList

theorem mem_junctionsOf {p : PointId} {j : JunctionId}
    (hj : (m.point p).branch = some j ∨ (m.point p).merge = some j) : j ∈ junctionsOf m := by
  refine List.mem_flatMap.mpr ⟨p.index, List.mem_range.mpr ?_, by simpa using hj⟩
  refine Nat.lt_of_not_ge fun hp => ?_
  rw [RoadMap.point_outside hp] at hj
  rcases hj with hj | hj <;> cases hj

/-- Some walker goes wherever the way leads on, and decides nothing there any more. `after` tells
where it is to go from each point of `P`. -/
theorem exists_following (hl : m.Linked) {P : PointId → Prop} {after : PointId → PointId}
    (hafter : ∀ p, P p → m.Leads p (after p)) (random : ρ) :
    ∃ w : Walker ρ, ∀ p, P p → w.tryNext m p = (some (after p), w) := by
  let taken (j : JunctionId) : Bool :=
    (m.point (m.junction j).start).next ≠ some (after (m.junction j).start)
  let w := knowing (junctionsOf m) taken random
  have hknown : ∀ {p j}, (m.point p).branch = some j ∨ (m.point p).merge = some j →
      w.decided j = some (taken j) := fun hj => decided_knowing (mem_junctionsOf hj)
  refine ⟨w, fun p hp => ?_⟩
  have htaken : ∀ {j}, (m.point p).branch = some j →
      taken j = decide ((m.point p).next ≠ some (after p)) := by
    intro j hj
    show decide _ = _
    rw [hl.start_of_branch hj]
  by_cases hnext : (m.point p).next = some (after p)
  · have hmade : Made m w ⟨p, false, after p⟩ :=
      .along hnext (fun j hj => by rw [hknown (Or.inl hj)]; rfl)
        fun j hj => by rw [hknown (Or.inr hj)]; rfl
    refine (tryNext_of_made hmade fun j hj => ?_).1
    rw [hknown (Or.inl hj), htaken hj, decide_eq_false (not_not.mpr hnext)]
  · obtain ⟨j, hj, hfinish⟩ := (RoadMap.leads_iff.mp (hafter p hp)).resolve_left hnext
    have hthrough : w.decided j = some true := by
      rw [hknown (Or.inl hj), htaken hj, decide_eq_true hnext]
    have hmade := Made.through j hj hthrough
    rw [← hfinish]
    refine (tryNext_of_made hmade fun k hk => ?_).1
    rw [show k = j from Option.some.inj (hk.symm.trans hj)]
    exact hthrough

end Walker

namespace Vehicle

section

variable {α ρ : Type} [Scalar α] [RandomSource ρ] {m : RoadMap α} {v v' : Vehicle α ρ}

/-- The vehicle comes to the end of its drive, and the same end whatever the limit on the points
that it passes is from some limit on. -/
def Arrives (m : RoadMap α) (v : Vehicle α ρ) : Prop :=
  ∃ limit d, ∀ more, limit ≤ more → v.drive m more = .ok d

/-- A vehicle that passes a point drives on from there. -/
theorem Passes.drive_eq (h : Passes m v v') (limit : Nat) :
    v.drive m (limit + 1) = v'.drive m limit := by
  obtain ⟨hpast, next, walker, hnext, rfl⟩ := h
  rw [drive, if_pos hpast]
  dsimp only
  rw [hnext]

/-- A vehicle has come to the end of its drive, or it passes a point. -/
theorem drive_start (m : RoadMap α) (v : Vehicle α ρ) :
    (∃ d, ∀ limit, v.drive m (limit + 1) = .ok d) ∨ ∃ v', Passes m v v' := by
  by_cases hpast : v.segment.length < v.progress
  · rcases hnext : v.walker.tryNext m v.segment.finish with ⟨_ | next, walker⟩
    · refine Or.inl ⟨.atDeadEnd { v with progress := v.progress - v.segment.length, walker },
        fun limit => ?_⟩
      rw [drive, if_pos hpast]
      dsimp only
      rw [hnext]
    · exact Or.inr ⟨_, hpast, next, walker, hnext, rfl⟩
  · refine Or.inl ⟨.onSegment v, fun limit => ?_⟩
    rw [drive, if_neg hpast]

/-- Who arrives from the next point on arrives. -/
theorem arrives_of_passes (h : ∀ v', Passes m v v' → Arrives m v') : Arrives m v := by
  rcases drive_start m v with ⟨d, hd⟩ | ⟨v', hpass⟩
  · refine ⟨1, d, fun more hmore => ?_⟩
    obtain ⟨limit, rfl⟩ := Nat.exists_eq_add_of_le' hmore
    exact hd limit
  · obtain ⟨limit, d, hd⟩ := h v' hpass
    refine ⟨limit + 1, d, fun more hmore => ?_⟩
    obtain ⟨rest, rfl⟩ := Nat.exists_eq_add_of_le' (Nat.le_trans (Nat.le_add_left 1 limit) hmore)
    rw [hpass.drive_eq]
    exact hd rest (Nat.le_of_succ_le_succ hmore)

/-- A vehicle that signals for no junction passes a point without any new signal. -/
theorem passes_idle {next : PointId} {walker : Walker ρ} (hpast : v.segment.length < v.progress)
    (hnext : v.walker.tryNext m v.segment.finish = (some next, walker))
    (hpassed : v.signal.passed = false) (hjunction : v.signal.junction = none) :
    Passes m v (enter m v.segment.finish next
      { v with progress := v.progress - v.segment.length, walker }) := by
  refine ⟨hpast, next, walker, hnext, ?_⟩
  unfold passSignal
  rw [if_neg (by rw [hpassed]; decide), hjunction]

/-- What passes a point and is then the same kind of vehicle passes points without end. -/
theorem drive_endless {P : Vehicle α ρ → Prop}
    (hP : ∀ v, P v → ∃ v', Passes m v v' ∧ P v') (hv : P v) (limit : Nat) :
    v.drive m limit = .error .endlessRoad := by
  induction limit generalizing v with
  | zero => rfl
  | succ limit ih =>
    obtain ⟨v', hpass, hv'⟩ := hP v hv
    rw [hpass.drive_eq, ih hv']

/-- Moving on fails where the drive does. -/
theorem update_of_drive {s : Settings α} {now : Millis} {fault : Fault} (hplaced : v.placed = true)
    (h : (v.depart now).drive m pointLimit = .error fault) (journal : Journal α) :
    v.update m s now journal = (.error fault, journal) := by
  unfold update
  rw [if_pos hplaced]
  show ((liftM ((v.depart now).drive m pointLimit) : Logged α (Drive α ρ)) >>= _) journal = _
  rw [h]
  rfl

/-- The vehicle is on a way of the map. -/
structure OnWay (m : RoadMap α) (v : Vehicle α ρ) : Prop where
  leads : m.Leads v.segment.start v.segment.finish
  length : v.segment.length = m.distance v.segment.start v.segment.finish

/-- Behind a point there is another way, and the length of the segment before it is done. -/
theorem Passes.onWay (h : Passes m v v') :
    OnWay m v' ∧ v'.segment.start = v.segment.finish ∧
      v'.progress = v.progress - v.segment.length := by
  obtain ⟨-, next, walker, hnext, rfl⟩ := h
  obtain ⟨walker', signal, hsignal, -⟩ := passSignal_changes (m := m)
    (v := { v with progress := v.progress - v.segment.length, walker }) v.segment.finish
  rw [hsignal]
  exact ⟨⟨Walker.leads_of_tryNext hnext, rfl⟩, rfl, rfl⟩

end

variable {K ρ : Type} [Field K] [LinearOrder K] [IsStrictOrderedRing K] [Scalar K] [ExactScalar K]
  [RandomSource ρ] {m : RoadMap K} {v : Vehicle K ρ}

open ExactScalar

/-- A vehicle whose progress is a number of shortest ways arrives. The induction is on that number,
and where a way has no length, on the chains of such ways. -/
theorem OnWay.arrives (hno : ¬ m.StandsStill) {d : K}
    (hshortest : ∀ {p q}, m.Leads p q → 0 < m.distance p q → d ≤ m.distance p q) {n : Nat}
    (hv : OnWay m v) (hprogress : v.progress ≤ n * d) : Arrives m v := by
  induction n generalizing v with
  | zero =>
    -- there is no way before it
    refine arrives_of_passes fun v' hpass => ?_
    have hpast := hpass.1
    have hlength : 0 ≤ v.segment.length := hv.length ▸ Vec3.distance_nonneg _ _
    rw [scalar_lt_iff] at hpast
    rw [Nat.cast_zero, zero_mul] at hprogress
    exact absurd (lt_of_lt_of_le hpast hprogress) (not_lt.mpr hlength)
  | succ n ih =>
    generalize hstart : v.segment.start = p
    induction p using RoadMap.standing_induction hno generalizing v with
    | h p ihStanding =>
      refine arrives_of_passes fun v' hpass => ?_
      obtain ⟨hv', hstart', hprogress'⟩ := hpass.onWay
      rw [scalar_sub_eq] at hprogress'
      have hlength : 0 ≤ v.segment.length := hv.length ▸ Vec3.distance_nonneg _ _
      rcases eq_or_lt_of_le hlength with hzero | hpos
      · refine ihStanding _ ⟨hstart ▸ hv.leads, ?_⟩ hv' ?_ hstart'
        · rw [← hstart, ← hv.length, ← hzero]
        · rw [hprogress', ← hzero, sub_zero]
          exact hprogress
      · have hway : d ≤ v.segment.length := by
          rw [hv.length] at hpos ⊢
          exact hshortest hv.leads hpos
        refine ih hv' ?_
        rw [hprogress']
        push_cast at hprogress
        linarith

/-- Where no chain of ways without length comes back, every drive ends. -/
theorem arrives [Archimedean K] (hno : ¬ m.StandsStill) (v : Vehicle K ρ) : Arrives m v := by
  obtain ⟨d, hd, hshortest⟩ := m.exists_shortest
  -- the vehicle may be anywhere, but from the first point on it is on a way of the map
  refine arrives_of_passes fun v' hpass => ?_
  obtain ⟨n, hn⟩ := exists_nat_ge (v'.progress / d)
  exact hpass.onWay.1.arrives hno hshortest ((div_le_iff₀ hd).mp hn)

/-! ## Round a circuit without length -/

/-- The vehicle is about to pass points without coming any further. `P` tells the points, from each
of which the walker `w` goes on to another one. -/
structure Circles (w : Walker ρ) (P : PointId → Prop) (v : Vehicle K ρ) : Prop where
  walker : v.walker = w
  finish : P v.segment.finish
  length : v.segment.length = 0
  progress : 0 < v.progress
  passed : v.signal.passed = false
  junction : v.signal.junction = none

theorem Circles.passes {w : Walker ρ} {P : PointId → Prop}
    (hround : ∀ p, P p → ∃ q, P q ∧ w.tryNext m p = (some q, w) ∧ m.distance p q = 0)
    (hv : Circles w P v) : ∃ v', Passes m v v' ∧ Circles w P v' := by
  obtain ⟨q, hq, hnext, hdistance⟩ := hround _ hv.finish
  have hpast : v.segment.length < v.progress := by
    rw [hv.length]
    exact hv.progress
  refine ⟨_, passes_idle ((scalar_lt_iff _ _).mpr hpast) (hv.walker ▸ hnext) hv.passed hv.junction,
    rfl, hq, hdistance, ?_, hv.passed, hv.junction⟩
  show 0 < @HSub.hSub K K K (@instHSub K Scalar.instSub) v.progress v.segment.length
  rw [scalar_sub_eq, hv.length, sub_zero]
  exact hv.progress

/-- A vehicle that goes round a circuit without length comes to no end. -/
theorem Circles.endless {w : Walker ρ} {P : PointId → Prop}
    (hround : ∀ p, P p → ∃ q, P q ∧ w.tryNext m p = (some q, w) ∧ m.distance p q = 0)
    (hv : Circles w P v) (limit : Nat) : v.drive m limit = .error .endlessRoad :=
  drive_endless (fun _ hv => hv.passes hround) hv limit

omit [RandomSource ρ] in
/-- In no time a vehicle makes no way. -/
theorem depart_progress (v : Vehicle K ρ) : (v.depart v.lastMoved).progress = v.progress := by
  show @HAdd.hAdd K K K (@instHAdd K Scalar.instAdd) v.progress
    (v.speed.advance _ v.maxSpeed).1 = v.progress
  unfold Speed.advance
  rw [Nat.sub_self]
  simp only [scalar_add_eq, scalar_mul_eq, scalar_div_eq, ExactScalar.ofNat_eq, Nat.cast_zero,
    zero_div, mul_zero, add_zero]

/-- On a map with a circuit without length, some vehicle that moves on drives without end. -/
theorem exists_endless (hl : m.Linked) (hstill : m.StandsStill) :
    ∃ (v : Vehicle K ρ) (now : Millis), v.placed = true ∧
      ∀ limit, (v.depart now).drive m limit = .error .endlessRoad := by
  obtain ⟨p, hp⟩ := hstill
  have hround : ∀ p, ∃ q, Relation.TransGen m.Stands p p →
      m.Stands p q ∧ Relation.TransGen m.Stands q q := by
    intro p
    by_cases hp : Relation.TransGen m.Stands p p
    · obtain ⟨q, hq⟩ := RoadMap.exists_stands_of_circuit hp
      exact ⟨q, fun _ => hq⟩
    · exact ⟨p, fun h => absurd h hp⟩
  choose after hafter using hround
  obtain ⟨w, hw⟩ := Walker.exists_following hl (fun p hp => (hafter p hp).1.1)
    (RandomSource.seeded 0 : ρ)
  let v : Vehicle K ρ :=
    { Vehicle.new ⟨SlotKey.nth 0, 0⟩ Settings.standard.profile .standard 0 with
      placed := true
      segment := ⟨p, after p, 0, .zero, .zero⟩
      progress := 1
      walker := w }
  have hv : Circles w (fun p => Relation.TransGen m.Stands p p) (v.depart v.lastMoved) :=
    ⟨rfl, (hafter p hp).2, rfl, by rw [depart_progress]; exact one_pos, rfl, rfl⟩
  exact ⟨v, v.lastMoved, rfl, hv.endless fun p hp =>
    ⟨after p, (hafter p hp).2, hw p hp, (hafter p hp).1.2⟩⟩

/-- On a map that has passed the checks every drive ends, of whatever vehicle and at whatever time,
if and only if no circuit of the roads is without length. -/
theorem arrives_iff [Archimedean K] (h : m.Validated) :
    (∀ (v : Vehicle K ρ) (now : Millis), v.placed = true → Arrives m (v.depart now)) ↔
      ¬ m.StandsStill := by
  constructor
  · intro hall hstill
    obtain ⟨v, now, hplaced, hendless⟩ := exists_endless (ρ := ρ) h.linked hstill
    obtain ⟨limit, d, hd⟩ := hall v now hplaced
    have harrives := hd limit (Nat.le_refl _)
    rw [hendless] at harrives
    cases harrives
  · exact fun hno v now _ => arrives hno (v.depart now)

/-- Settings that give all vehicles the same speed. -/
private def sameSpeed : Settings Rat := { Settings.standard with speedVariation := 0 }

/-- A vehicle at the first point of a road. -/
private def settingOff (m : RoadMap Rat) :
    Logged Rat (Except DeadEnd Unit × Vehicle Rat (Tape fun _ _ => 0)) :=
  (Vehicle.new ⟨SlotKey.nth 0, 0⟩ sameSpeed.profile sameSpeed 0).place m sameSpeed ⟨0⟩ 0 true

/-- What comes of a vehicle that sets off on the lanes side by side. -/
private def onLanes : Except DeadEnd Unit × Vehicle Rat (Tape fun _ _ => 0) :=
  answerOf (settingOff sideBySide) (by decide +kernel)

/-- The lanes side by side have ways of 100 m only, so a vehicle that sets off there comes to an
end. -/
theorem arrives_sideBySide :
    sideBySide.Validated ∧ onLanes.2.placed = true ∧
      Arrives sideBySide (onLanes.2.depart 10000) := by
  have hvalid := RoadMap.validated_of_ofParts sideBySide_wellFormed
  have hno : ¬ sideBySide.StandsStill := RoadMap.not_standsStill (by decide +kernel)
  have hplaced : onLanes.2.placed = true := by decide +kernel
  exact ⟨hvalid, hplaced, (arrives_iff hvalid).mpr hno onLanes.2 10000 hplaced⟩

/-- A closed lane of two points at the same place. -/
private def doubledPoint : RoadBuilder Rat :=
  (RoadBuilder.addSpline "loop" [.level .zero, .level .zero] true RoadBuilder.empty).2

/-- The road of that lane. -/
private def doubledRoad : RoadMap Rat where
  points := doubledPoint.points.map doubledPoint.measured
  junctions := doubledPoint.junctions
  splines := doubledPoint.splines
  tree := .ofSites ((doubledPoint.points.map doubledPoint.measured).toList.map fun p =>
    (p.position, p.id))

private theorem doubledPoint_build : doubledPoint.build = .ok doubledRoad := by
  have hcheck : Validation.check (doubledPoint.points.map doubledPoint.measured)
      doubledPoint.junctions doubledPoint.splines = .ok () := by decide +kernel
  unfold RoadBuilder.build RoadMap.ofParts
  rw [hcheck]
  rfl

/-- What comes of a vehicle that sets off there. -/
private def onDoubledRoad : Except DeadEnd Unit × Vehicle Rat (Tape fun _ _ => 0) :=
  answerOf (settingOff doubledRoad) (by decide +kernel)

/-- A vehicle that sets off where a closed lane has both of its points drives without end. -/
theorem endless_doubledRoad :
    doubledPoint.build = .ok doubledRoad ∧ onDoubledRoad.1 = .ok () ∧
    onDoubledRoad.2.placed = true ∧
    (∀ limit, (onDoubledRoad.2.depart 1000).drive doubledRoad limit = .error .endlessRoad) ∧
    ∀ journal, onDoubledRoad.2.update doubledRoad sameSpeed 1000 journal =
      (.error .endlessRoad, journal) := by
  have hround : ∀ p, p = ⟨0⟩ ∨ p = ⟨1⟩ → ∃ q, (q = ⟨0⟩ ∨ q = ⟨1⟩) ∧
      onDoubledRoad.2.walker.tryNext doubledRoad p = (some q, onDoubledRoad.2.walker) ∧
      doubledRoad.distance p q = 0 := by
    rintro p (rfl | rfl)
    · exact ⟨⟨1⟩, Or.inr rfl, Walker.tryNext_plain (by decide +kernel) (by decide +kernel)
        (by decide +kernel), by decide +kernel⟩
    · exact ⟨⟨0⟩, Or.inl rfl, Walker.tryNext_plain (by decide +kernel) (by decide +kernel)
        (by decide +kernel), by decide +kernel⟩
  have hv : Circles onDoubledRoad.2.walker (fun p => p = ⟨0⟩ ∨ p = ⟨1⟩)
      (onDoubledRoad.2.depart 1000) :=
    ⟨rfl, by decide +kernel, by decide +kernel, by decide +kernel, by decide +kernel,
      by decide +kernel⟩
  have hplaced : onDoubledRoad.2.placed = true := by decide +kernel
  exact ⟨doubledPoint_build, by decide +kernel, hplaced, hv.endless hround,
    update_of_drive hplaced (hv.endless hround _)⟩

end Vehicle

end RoadTraffic
