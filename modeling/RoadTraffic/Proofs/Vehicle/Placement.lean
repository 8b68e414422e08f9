import RoadTraffic.Proofs.Geometry.Exact
import RoadTraffic.Proofs.Vehicle.Drive

/-!
# Where a vehicle is placed

A vehicle that is placed begins the segment that begins at the given point, and its report is made
from there (`place_cases`). In exact arithmetic the position that it reports is that of the point
itself, raised by what its profile says (`report_position_raised`).
-/

namespace RoadTraffic

namespace Vehicle

section

variable {α ρ : Type} [Scalar α] [RandomSource ρ] {m : RoadMap α} {s : Settings α}

/-- The vehicle is at the beginning of the segment that begins at a point. -/
structure Begins (point : PointId) (v : Vehicle α ρ) : Prop where
  start : v.segment.start = point
  progress : v.progress = 0

/-- A vehicle that cannot be placed only forgets its route, and its walker goes nowhere from the
point. One that can begins the segment at the point and reports from there. -/
theorem place_cases {point : PointId} {now : Millis} {renewed : Bool} {v v' : Vehicle α ρ}
    {outcome : Except DeadEnd Unit} (h : Answers (v.place m s point now renewed) (outcome, v')) :
    ((v.walker.clear.tryNext m point).1 = none ∧ ∃ walker, v' = { v with walker }) ∨
      outcome = .ok () ∧
        ∃ u : Vehicle α ρ, v' = u.report m s now ∧ u.Begins point ∧ u.placed = true := by
  rcases place_ends h with ⟨walker, hnone, -, hv'⟩ | ⟨next, walker, u, -, hok, hu, hsettle⟩
  · exact Or.inl ⟨by rw [hnone], walker, hv'⟩
  · obtain ⟨protectedUntil, random, safetyDistanceSquared, hreport⟩ := settle_changes hsettle
    refine Or.inr ⟨hok, _, hreport, ?_, rfl⟩
    -- what is drawn for the vehicle does not move it
    rcases hu with ⟨-, hrenew⟩ | ⟨-, rfl⟩
    · obtain ⟨factor, rest, random', status, -, rfl⟩ := renew_changes hrenew
      exact ⟨rfl, rfl⟩
    · exact ⟨rfl, rfl⟩

/-- Where a lane leads on a vehicle can be placed, and then it is there. -/
theorem place_of_next {point : PointId} {now : Millis} {renewed : Bool} {v v' : Vehicle α ρ}
    {outcome : Except DeadEnd Unit} (hnext : (m.point point).next.isSome = true)
    (h : Answers (v.place m s point now renewed) (outcome, v')) :
    outcome = .ok () ∧ v'.placed = true ∧ v'.point = point := by
  rcases place_cases h with ⟨hnowhere, -⟩ | ⟨hok, u, rfl, hbegins, hplaced⟩
  · obtain ⟨next, hnext⟩ := Option.isSome_iff_exists.mp hnext
    exact absurd (RoadMap.leads_iff.mpr (Or.inl hnext))
      (Walker.not_leads_of_tryNext hnowhere next)
  · exact ⟨hok, hplaced, hbegins.start⟩

/-- A vehicle with a way on that is placed anew enters the segment, is renewed and settles. -/
theorem place_renewed {point next : PointId} {now : Millis} {v : Vehicle α ρ} {walker : Walker ρ}
    (h : v.walker.clear.tryNext m point = (some next, walker)) :
    v.place m s point now true = do
      let u ← renew m s point ((enter m point next { v with progress := 0, walker }).fitTangents m)
        >>= settle m s now
      return (.ok (), u) := by
  have hdemand : m.demandPoint point = .ok (m.point point) := by
    rcases m.demandPoint_cases point with ⟨-, hdemand⟩ | ⟨houtside, -⟩
    · exact hdemand
    · exact absurd (Walker.leads_of_tryNext h).inside houtside
  unfold place
  rw [hdemand, h, bind_assoc]
  rfl

end

variable {K ρ : Type} [Field K] [LinearOrder K] [IsStrictOrderedRing K] [Scalar K] [ExactScalar K]

/-- At the beginning of its segment a vehicle is where the segment begins, raised by what its
profile says. -/
theorem report_position_raised {m : RoadMap K} {s : Settings K} {now : Millis} {point : PointId}
    {v : Vehicle K ρ} (hv : v.Begins point) :
    (v.report m s now).position = (m.point point).position +
      ⟨@OfNat.ofNat K 0 (Scalar.instOfNat 0), v.profile.heightOffset,
        @OfNat.ofNat K 0 (Scalar.instOfNat 0)⟩ := by
  have hshare : share v.progress v.segment.length = 0 := by
    rw [hv.progress]
    exact share_zero (by rw [ExactScalar.scalar_ofNat_eq, Nat.cast_zero])
  show (Hermite.sample _ _).1 + _ = _
  rw [Hermite.sample_zero _ hshare, hv.start]

/-- At the beginning of its segment a vehicle that is not raised is where the segment begins. -/
theorem report_position_start {m : RoadMap K} {s : Settings K} {now : Millis} {point : PointId}
    {v : Vehicle K ρ} (hv : v.Begins point) (hflat : v.profile.heightOffset = 0) :
    (v.report m s now).position = (m.point point).position := by
  rw [report_position_raised hv, Vec3.add_raise_zero _ hflat]

end Vehicle

end RoadTraffic
