import RoadTraffic.Proofs.Vehicle.SpeedBounds
import RoadTraffic.Proofs.Vehicle.Tangents

/-!
# The route does not depend on the tick rate

Whenever a vehicle has been moved on, its walker looks one point back and one point ahead for the
tangents. So a vehicle that is moved on more often asks its walker more often, and at other points
of its route, and each question may draw a decision. It comes to the same points nevertheless. To
look back decides nothing, because a vehicle that drives knows how it came to its segment; and to
look ahead decides what the next step would have decided, which is remembered until then.

A vehicle that was just placed therefore drives over the points that its walker comes to from there
on, and how it is moved on says only how many of them (`tour_eq_route`).
-/

namespace RoadTraffic

namespace Walker

variable {α ρ : Type} [Scalar α] [RandomSource ρ] {m : RoadMap α} {w w' : Walker ρ}

/-- The points that a walker comes to from a point on, which is the first of them, up to a
number. -/
def way (m : RoadMap α) : Nat → PointId → Walker ρ → List PointId
  | 0, _, _ => []
  | n + 1, p, w =>
    p :: match w.tryNext m p with
      | (some q, w) => way m n q w
      | (none, _) => []

theorem way_prefix {n k : Nat} (h : n ≤ k) (p : PointId) (w : Walker ρ) :
    w.way m n p <+: w.way m k p := by
  induction n generalizing k p w with
  | zero => exact List.nil_prefix
  | succ n ih =>
    obtain ⟨k, rfl⟩ := Nat.exists_eq_add_of_le' (Nat.le_trans (Nat.le_add_left 1 n) h)
    unfold way
    rcases w.tryNext m p with ⟨_ | q, w'⟩
    · exact List.prefix_rfl
    · exact List.cons_prefix_cons.mpr ⟨rfl, ih (Nat.le_of_succ_le_succ h) q w'⟩

/-- A walker that has looked one step ahead goes the same way. -/
theorem way_again (hl : m.Linked) (hw : w.remembers = true) {p : PointId}
    {target : Option PointId} (h : w.tryNext m p = (target, w')) (n : Nat) :
    w'.way m n p = w.way m n p := by
  cases n with
  | zero => rfl
  | succ n =>
    unfold way
    rw [tryNext_again hl hw h (.refl _), h]

end Walker

namespace Vehicle

variable {α ρ : Type} [Scalar α] [RandomSource ρ] {m : RoadMap α} {s : Settings α}
  {v v' u : Vehicle α ρ}

/-! ## Every vehicle remembers -/

theorem place_remembers {point : PointId} {now : Millis} {renewed : Bool}
    {outcome : Except DeadEnd Unit} (hw : v.walker.remembers = true)
    (h : Answers (v.place m s point now renewed) (outcome, v')) : v'.walker.remembers = true := by
  have hstep := Walker.tryNext_keeps (m := m) (w := v.walker.clear) hw point
  have hwalker := hstep.remembers hw
  rcases place_ends h with ⟨walker, hnone, -, rfl⟩ | ⟨next, walker, u, hnext, -, hu, hsettle⟩
  · rwa [hnone] at hwalker
  rw [hnext] at hwalker
  have hfitted := fitTangents_remembers (m := m)
    (v := enter m point next { v with progress := 0, walker }) hwalker
  obtain ⟨protectedUntil, random, safetyDistanceSquared, rfl⟩ := settle_changes hsettle
  rcases hu with ⟨-, hrenew⟩ | ⟨-, rfl⟩
  · obtain ⟨factor, rest, random', status, -, rfl⟩ := renew_changes hrenew
    exact hfitted
  · exact hfitted

theorem passes_remembers (hw : v.walker.remembers = true)
    (h : Relation.ReflTransGen (Passes m) v v') : v'.walker.remembers = true := by
  induction h with
  | refl => exact hw
  | tail _ hpass ih =>
    obtain ⟨next, walker, -, -, -, hstep, hsignal⟩ := hpass.steps ih
    exact (hstep.trans hsignal).remembers ih

theorem update_remembers {now : Millis} {outcome : Except DeadEnd Unit}
    (hw : v.walker.remembers = true) (h : Answers (v.update m s now) (outcome, v')) :
    v'.walker.remembers = true := by
  rcases update_cases h with ⟨-, rfl⟩ | ⟨u, hu, rfl | hplace⟩
  · exact hw
  · exact fitTangents_remembers (passes_remembers (v := v.depart now) hw hu)
  · have hpassed := passes_remembers (v := v.depart now) hw hu
    exact place_remembers ((Walker.tryNext_keeps hpassed _).remembers hpassed) hplace

/-- The walker of a vehicle remembers what it has decided, whatever happens to the vehicle. -/
theorem Arises.remembers (h : Arises m s v) : v.walker.remembers = true := by
  induction h with
  | begins => rfl
  | placed _ h ih => exact place_remembers ih h
  | moved _ h ih => exact update_remembers ih h
  | lookedOut _ h ih => exact (lookOut_keepsRoute ih h).walker.remembers ih
  | aimed _ _ _ _ ih => exact ih
  | removed _ ih => exact ih

/-! ## The tour of a vehicle -/

/-- A drive, with the points that it goes over. The last of them may be the one at which the way
ends. -/
def driveOver (m : RoadMap α) : Nat → Vehicle α ρ → Except Fault (Drive α ρ × List PointId)
  | 0, _ => .error .endlessRoad
  | limit + 1, v =>
    if v.segment.length < v.progress then
      let v := { v with progress := v.progress - v.segment.length }
      let reached := v.segment.finish
      match v.walker.tryNext m reached with
      | (none, walker) => .ok (.atDeadEnd { v with walker }, [reached])
      | (some next, walker) => do
        let (d, points) ← driveOver m limit
          ((({ v with walker }).passSignal m reached).enter m reached next)
        return (d, reached :: points)
    else .ok (.onSegment v, [])

/-- It is the drive that the vehicle makes. -/
theorem driveOver_fst (limit : Nat) (v : Vehicle α ρ) :
    Prod.fst <$> v.driveOver m limit = v.drive m limit := by
  induction limit generalizing v with
  | zero => rfl
  | succ limit ih =>
    have hrest : ∀ (reached : PointId) (x : Except Fault (Drive α ρ × List PointId)),
        Prod.fst <$> (do let (d, points) ← x; return (d, reached :: points)) = Prod.fst <$> x := by
      rintro reached (_ | ⟨d, points⟩)
      · rfl
      · rfl
    unfold driveOver drive
    split
    · dsimp only
      rcases v.walker.tryNext m v.segment.finish with ⟨_ | next, walker⟩
      · rfl
      · exact (hrest _ _).trans (ih _)
    · rfl

/-- The points that a vehicle on the road drives over while it is moved on to some times, up to the
end of its way. -/
def tour (m : RoadMap α) (s : Settings α) : List Millis → Vehicle α ρ → Logged α (List PointId)
  | [], _ => return []
  | now :: times, v => do
    match ← (v.depart now).driveOver m pointLimit with
    | (.atDeadEnd _, points) => return points
    | (.onSegment _, points) =>
      let (_, v) ← v.update m s now
      return points ++ (← tour m s times v)

/-- The points that lie before a vehicle, up to a number. -/
def route (m : RoadMap α) (n : Nat) (v : Vehicle α ρ) : List PointId :=
  v.walker.way m n v.segment.finish

/-- The vehicle is on its route and signals nothing. -/
structure Cruises (m : RoadMap α) (v : Vehicle α ρ) : Prop where
  placed : v.placed = true
  onRoute : OnRoute m v
  signal : v.signal = .off

theorem place_cruises (hl : m.Linked) (hw : v.walker.remembers = true) {point : PointId}
    {now : Millis} {renewed : Bool} (h : Answers (v.place m s point now renewed) (.ok (), v')) :
    Cruises m v' := by
  obtain ⟨hplaced, -, hsignal⟩ := place_settled h
  exact ⟨hplaced, (place_onRoute hl hw h).1, hsignal⟩

omit [RandomSource ρ] in
theorem Cruises.depart (hl : m.Linked) (hv : Cruises m v) (now : Millis) :
    Cruises m (v.depart now) :=
  ⟨hv.placed, hv.onRoute.keeps hl rfl rfl (.refl _), hv.signal⟩

/-- A vehicle that has been moved on goes the way that lay before it. -/
theorem Cruises.arrive (hl : m.Linked) (hv : Cruises m v) (now : Millis) :
    Cruises m ((v.fitTangents m).report m s now) ∧
      ∀ n, ((v.fitTangents m).report m s now).route m n = v.route m n := by
  refine ⟨⟨hv.placed, ((Step.arrives now).onRoute hl hv.onRoute).1, hv.signal⟩, fun n => ?_⟩
  show (v.fitTangents m).walker.way m n v.segment.finish = _
  rw [hv.onRoute.fitTangents_walker hl]
  exact Walker.way_again hl hv.onRoute.remembers rfl n

theorem passSignal_off (hsignal : v.signal = .off) (point : PointId) :
    v.passSignal m point = v := by
  unfold passSignal
  rw [hsignal]
  rfl

/-- A vehicle that passes a point goes the way that lay before it. -/
theorem Cruises.passes (hl : m.Linked) (hv : Cruises m v) (h : Passes m v v') :
    Cruises m v' ∧ ∀ n, v.route m (n + 1) = v.segment.finish :: v'.route m n := by
  have hon := (h.onRoute hl hv.onRoute).1
  obtain ⟨hpast, next, walker, hnext, rfl⟩ := h
  have hquiet := passSignal_off (m := m)
    (v := { v with progress := v.progress - v.segment.length, walker }) hv.signal v.segment.finish
  rw [hquiet] at hon ⊢
  refine ⟨⟨hv.placed, hon, hv.signal⟩, fun n => ?_⟩
  show v.walker.way m (n + 1) v.segment.finish = _
  rw [Walker.way, hnext]
  rfl

/-- A drive goes over the points that lie before the vehicle. The rest of them lies before it where
the drive ends. -/
theorem Cruises.driveOver (hl : m.Linked) (hv : Cruises m v) {limit : Nat} {d : Drive α ρ}
    {points : List PointId} (h : Answers (v.driveOver m limit) (d, points)) :
    (∃ u, d = .onSegment u ∧ Cruises m u ∧
        ∀ n, v.route m (points.length + n) = points ++ u.route m n) ∨
      ∃ u, d = .atDeadEnd u ∧ v.route m points.length = points := by
  induction limit generalizing v d points with
  | zero => cases h
  | succ limit ih =>
    unfold Vehicle.driveOver at h
    split at h
    · next hpast =>
      dsimp only at h
      split at h
      · next walker hnone =>
        cases h
        refine Or.inr ⟨_, rfl, ?_⟩
        show v.walker.way m 1 v.segment.finish = _
        rw [Walker.way, hnone]
      · next next walker hnext =>
        obtain ⟨⟨d', rest⟩, hrest, h⟩ := answers_bind h
        cases answers_pure h
        obtain ⟨hv', hroute⟩ := hv.passes hl ⟨hpast, next, walker, hnext, rfl⟩
        rcases ih hv' hrest with ⟨u, rfl, hu, hbefore⟩ | ⟨u, rfl, hall⟩
        · refine Or.inl ⟨u, rfl, hu, fun n => ?_⟩
          rw [List.length_cons, Nat.add_right_comm, hroute, hbefore]
          rfl
        · refine Or.inr ⟨u, rfl, ?_⟩
          rw [List.length_cons, hroute, hall]
    · cases h
      refine Or.inl ⟨v, rfl, hv, fun n => ?_⟩
      rw [List.length_nil, Nat.zero_add, List.nil_append]

/-- A drive that ends on a segment is all of the motion, but for the tangents. -/
theorem update_of_onSegment {now : Millis} {outcome : Except DeadEnd Unit}
    (hplaced : v.placed = true) (hdrive : (v.depart now).drive m pointLimit = .ok (.onSegment u))
    (h : Answers (v.update m s now) (outcome, v')) : v' = (u.fitTangents m).report m s now := by
  unfold update at h
  rw [if_pos hplaced] at h
  obtain ⟨d, hd, h⟩ := answers_bind h
  obtain rfl : d = .onSegment u := Except.ok.inj ((answers_lift hd).symm.trans hdrive)
  cases answers_pure h
  rfl

/-- However a vehicle is moved on, it drives over the points that lie before it. -/
theorem tour_eq_route (hl : m.Linked) (hv : Cruises m v) {times : List Millis}
    {points : List PointId} (h : Answers (v.tour m s times) points) :
    v.route m points.length = points := by
  induction times generalizing v points with
  | nil =>
    rw [answers_pure h]
    rfl
  | cons now times ih =>
    obtain ⟨⟨d, first⟩, hdrive, h⟩ := answers_bind h
    have hdrive := answers_lift hdrive
    rcases (hv.depart hl now).driveOver hl hdrive with ⟨u, rfl, hu, hroute⟩ | ⟨u, rfl, hall⟩
    · obtain ⟨⟨outcome, v'⟩, hupdate, h⟩ := answers_bind h
      obtain ⟨rest, hrest, h⟩ := answers_bind h
      rw [answers_pure h]
      have harrived : v' = (u.fitTangents m).report m s now := by
        refine update_of_onSegment hv.placed ?_ hupdate
        rw [← driveOver_fst, show (v.depart now).driveOver m pointLimit = _ from hdrive]
        rfl
      obtain ⟨hv', hsame⟩ := hu.arrive (s := s) hl now
      rw [← harrived] at hv' hsame
      show (v.depart now).route m (first ++ rest).length = _
      rw [List.length_append, hroute, ← hsame, ih hv' hrest]
    · rw [answers_pure h]
      exact hall

/-- **The route does not depend on the tick rate.** Two vehicles that are alike when they are placed
are moved on to different times, each up to the end of its way. Then one of them drives over the
points that the other one drives over, and maybe over some more after them. Of any vehicle that
came about the walker remembers (`Arises.remembers`). -/
theorem tour_prefix (hm : m.Validated) (hw : v.walker.remembers = true) {point : PointId}
    {now : Millis} {renewed : Bool} (h : Answers (v.place m s point now renewed) (.ok (), v'))
    {times times' : List Millis} {points points' : List PointId}
    (hpoints : Answers (v'.tour m s times) points)
    (hpoints' : Answers (v'.tour m s times') points') :
    points <+: points' ∨ points' <+: points := by
  have hv := place_cruises hm.linked hw h
  rw [← tour_eq_route hm.linked hv hpoints, ← tour_eq_route hm.linked hv hpoints']
  rcases Nat.le_total points.length points'.length with hle | hle
  · exact Or.inl (Walker.way_prefix hle _ _)
  · exact Or.inr (Walker.way_prefix hle _ _)

private theorem placedOnRing : (placeOnRing 0 ⟨2⟩ #[]).1.isOk = true := by decide +kernel

/-- A vehicle on the ring that is going to take the ramp. -/
private def towardsRamp : Vehicle Rat (Tape fun _ _ => 0) := (answerOf _ placedOnRing).2

/-- What the vehicle drives over when it is moved on twice. -/
private def inTwoMoves : List PointId :=
  answerOf (towardsRamp.tour ringWithRamp evenRoadSettings [10000, 24000]) (by decide +kernel)

/-- What it drives over when it is moved on more often, for a shorter time. -/
private def inManyMoves : List PointId :=
  answerOf (towardsRamp.tour ringWithRamp evenRoadSettings [4000, 8000, 12000, 16000])
    (by decide +kernel)

/-- By way of the ramp in larger and in smaller steps. -/
theorem tour_by_ramp :
    inTwoMoves = [⟨3⟩, ⟨4⟩, ⟨5⟩, ⟨6⟩, ⟨1⟩] ∧ inManyMoves = [⟨3⟩, ⟨4⟩, ⟨5⟩] ∧
      (inManyMoves <+: inTwoMoves ∨ inTwoMoves <+: inManyMoves) := by
  have hplace := answers_lift (answers_answerOf placedOnRing)
  rw [show answerOf _ placedOnRing = (.ok (), towardsRamp) from
    Prod.ext (by decide +kernel) rfl] at hplace
  exact ⟨by decide +kernel, by decide +kernel, tour_prefix ringWithRamp_validated rfl hplace
    (answers_answerOf _) (answers_answerOf _)⟩

end Vehicle

end RoadTraffic
