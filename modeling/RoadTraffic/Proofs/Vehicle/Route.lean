import Mathlib.Logic.Relation
import RoadTraffic.Proofs.Route.Passages
import RoadTraffic.Proofs.Vehicle.Profile

/-!
# The route of a vehicle

A vehicle that was placed drives along the passages of its walk. `OnRoute` says so of the segment
that it is on: the passage is made, the walker stands by it, and it knows how it got to the start of
the segment. Every step of a vehicle keeps this and takes no decision back, except that a junction
at the end of a lane is taken after all (`Step.onRoute`).

Moving a vehicle on is made of such steps (`update_cases`), and so it is on its route as long as it
drives, with tangents that fit the way ahead (`Driving.onRoute`).
-/

namespace RoadTraffic

namespace Vehicle

open Walker (Keeps Made Firm Arrived)

/-! ## What leaves the route alone -/

section

variable {α ρ : Type} [Scalar α] {m : RoadMap α} {v v' : Vehicle α ρ}

/-- The vehicle is on the same segment, and its walker takes no decision back. -/
structure KeepsRoute (m : RoadMap α) (v v' : Vehicle α ρ) : Prop where
  segment : v'.segment = v.segment
  walker : Keeps m.LeavesEnd v.walker v'.walker

theorem KeepsRoute.refl (v : Vehicle α ρ) : KeepsRoute m v v := ⟨rfl, .refl _⟩

theorem KeepsRoute.trans {v'' : Vehicle α ρ} (h : KeepsRoute m v v') (h' : KeepsRoute m v' v'') :
    KeepsRoute m v v'' :=
  ⟨h'.segment.trans h.segment, h.walker.trans h'.walker⟩

/-- Who has the same segment and the same walker keeps its route. -/
theorem keepsRoute_of_eq (hsegment : v'.segment = v.segment) (hwalker : v'.walker = v.walker) :
    KeepsRoute m v v' :=
  ⟨hsegment, hwalker ▸ .refl _⟩

/-- The passage that the vehicle's segment is. -/
def passage (v : Vehicle α ρ) (through : Bool) : Passage :=
  ⟨v.segment.start, through, v.segment.finish⟩

/-- The only way to the point is through a junction from the point itself. -/
def LoopsAt (m : RoadMap α) (p : PointId) : Prop :=
  (m.point p).previous = none ∧ ∃ j, (m.point p).branch = some j ∧ (m.point p).merge = some j

/-- The vehicle's walker has made the passage that the vehicle is on, stands by it and knows how it
got there. -/
structure OnRoute (m : RoadMap α) (v : Vehicle α ρ) : Prop where
  remembers : v.walker.remembers = true
  made : ∃ through, Made m v.walker (v.passage through) ∧
    (¬ LoopsAt m v.segment.start → Firm m v.walker (v.passage through))
  arrived : Arrived m v.walker v.segment.start

/-- What the walker decides later does not take the vehicle off its route. -/
theorem OnRoute.keeps (hl : m.Linked) (h : OnRoute m v)
    (hstart : v'.segment.start = v.segment.start) (hfinish : v'.segment.finish = v.segment.finish)
    (hkeeps : Keeps m.LeavesEnd v.walker v'.walker) : OnRoute m v' := by
  obtain ⟨through, hmade, hfirm⟩ := h.made
  have hpassage : v'.passage through = v.passage through := by
    unfold passage
    rw [hstart, hfinish]
  refine ⟨hkeeps.remembers h.remembers, ⟨through, ?_, fun hloop => ?_⟩, ?_⟩
  · rw [hpassage]
    exact hmade.keeps hkeeps
  · rw [hpassage]
    rw [hstart] at hloop
    exact (hfirm hloop).keeps_ahead hl hmade hkeeps
  · rw [hstart]
    exact h.arrived.keeps hkeeps

theorem OnRoute.of_keepsRoute (hl : m.Linked) (h : OnRoute m v) (hkeeps : KeepsRoute m v v') :
    OnRoute m v' :=
  h.keeps hl (by rw [hkeeps.segment]) (by rw [hkeeps.segment]) hkeeps.walker

end

variable {α ρ : Type} [Scalar α] [RandomSource ρ] {m : RoadMap α} {s : Settings α}
  {v v' : Vehicle α ρ}

theorem passSignal_keepsRoute (hw : v.walker.remembers = true) (point : PointId) :
    KeepsRoute m v (v.passSignal m point) := by
  obtain ⟨walker, signal, hsignal, hwalker⟩ := passSignal_changes (m := m) (v := v) point
  rw [hsignal]
  rcases hwalker with rfl | ⟨j, rfl⟩
  · exact keepsRoute_of_eq rfl rfl
  · exact ⟨rfl, Walker.takes_keeps m hw j⟩

theorem signalFor_keepsRoute (hw : v.walker.remembers = true) (point : PointId) (ahead : α) :
    KeepsRoute m v (v.signalFor m point ahead) := by
  unfold signalFor
  split
  · exact .refl v
  · next j _ =>
    dsimp only
    split
    · exact ⟨rfl, Walker.takes_keeps m hw j⟩
    · exact .refl v

theorem lookFrom_keepsRoute (hw : v.walker.remembers = true) {vehicles : Occupancy α} {reach : α}
    {points : Nat} {point : PointId} {ahead bendSpeed : α} :
    KeepsRoute m v (lookFrom m vehicles reach points point ahead bendSpeed v).2 := by
  induction points generalizing point ahead bendSpeed v with
  | zero => exact .refl v
  | succ points ih =>
    unfold lookFrom
    split
    · exact .refl v
    split
    · exact .refl v
    have hsignal := signalFor_keepsRoute (m := m) hw point ahead
    have hremembers := hsignal.walker.remembers hw
    have hkeeps := Walker.tryNext_keeps (m := m) hremembers point
    dsimp only
    split
    · next walker hwalker =>
      rw [hwalker] at hkeeps
      exact hsignal.trans ⟨rfl, hkeeps⟩
    · next next walker hwalker =>
      rw [hwalker] at hkeeps
      have hmoved : KeepsRoute m v { v.signalFor m point ahead with walker } :=
        hsignal.trans ⟨rfl, hkeeps⟩
      exact hmoved.trans (ih (hkeeps.remembers hremembers))

theorem lookOut_keepsRoute (hw : v.walker.remembers = true) {around : Surroundings α}
    {now : Millis} (h : Answers (v.lookOut m s around now) v') : KeepsRoute m v v' := by
  unfold lookOut at h
  split at h
  · rw [answers_pure h]
    exact .refl v
  split at h
  · rw [answers_pure h]
    exact keepsRoute_of_eq rfl rfl
  obtain ⟨u, hu, h⟩ := answers_bind h
  rw [answers_pure h]
  obtain ⟨random, wait, rfl⟩ := watchWait_cases hu
  have hlook : KeepsRoute m { v with random, wait }
      (lookAhead m around.vehicles { v with random, wait }).2 := by
    unfold lookAhead
    exact lookFrom_keepsRoute (v := { v with random, wait }) hw
  exact ⟨hlook.segment, hlook.walker⟩

/-! ## Steps of a vehicle -/

/-- The vehicle when the distance that it drives until a time lies before it. -/
def depart (now : Millis) (v : Vehicle α ρ) : Vehicle α ρ :=
  let dt : α := Scalar.ofNat (now - v.lastMoved) / 1000
  let (distance, speed) := v.speed.advance dt v.maxSpeed
  { v with lastMoved := now, speed, progress := v.progress + distance }

/-- The vehicle passes the end of its segment and enters the next one. -/
def Passes (m : RoadMap α) (v v' : Vehicle α ρ) : Prop :=
  v.segment.length < v.progress ∧
    ∃ next walker, v.walker.tryNext m v.segment.finish = (some next, walker) ∧
      v' = (passSignal m v.segment.finish
        { v with progress := v.progress - v.segment.length, walker }).enter m v.segment.finish next

/-- Passing points changes nothing but the segment, the progress, the route and the signal. -/
theorem passes_changes (h : Relation.ReflTransGen (Passes m) v v') :
    ∃ segment progress walker signal, v' = { v with segment, progress, walker, signal } := by
  induction h with
  | refl => exact ⟨v.segment, v.progress, v.walker, v.signal, rfl⟩
  | @tail u _ _ hpass ih =>
    obtain ⟨segment, progress, walker, signal, rfl⟩ := ih
    obtain ⟨-, next, walker', -, rfl⟩ := hpass
    obtain ⟨walker'', signal', hsignal, -⟩ := passSignal_changes (m := m)
      (v := { v with segment, progress := progress - segment.length, walker := walker', signal })
      segment.finish
    exact ⟨_, _, walker'', signal', by rw [hsignal]; rfl⟩

/-- What a vehicle on the road does, point by point. -/
inductive Step (m : RoadMap α) (s : Settings α) (v : Vehicle α ρ) : Vehicle α ρ → Prop
  | departs (now : Millis) : Step m s v (v.depart now)
  | passes {v' : Vehicle α ρ} (h : Passes m v v') : Step m s v v'
  | arrives (now : Millis) : Step m s v ((v.fitTangents m).report m s now)
  | looksOut {v' : Vehicle α ρ} {around : Surroundings α} {now : Millis}
    (h : Answers (v.lookOut m s around now) v') : Step m s v v'
  | aims (target deceleration acceleration : α) :
    Step m s v (v.aim target deceleration acceleration)

/-- What comes of any number of steps. -/
abbrev Rolls (m : RoadMap α) (s : Settings α) : Vehicle α ρ → Vehicle α ρ → Prop :=
  Relation.ReflTransGen (Step m s)

/-- On a route, only the way ahead needs to be decided to fit the tangents. -/
theorem OnRoute.fitTangents_walker (hl : m.Linked) (h : OnRoute m v) :
    (v.fitTangents m).walker = (v.walker.tryNext m v.segment.finish).2 := by
  have hquiet := h.arrived.quiet hl
  show ((v.walker.tryPrevious m v.segment.start).2.tryNext m v.segment.finish).2 = _
  rw [hquiet]

/-- The walker of a vehicle that passes a point decides the step, and more where it signals. -/
theorem Passes.steps (hw : v.walker.remembers = true) (h : Passes m v v') :
    ∃ next walker, v.walker.tryNext m v.segment.finish = (some next, walker) ∧
      v'.segment.start = v.segment.finish ∧ v'.segment.finish = next ∧
      Keeps m.LeavesEnd v.walker walker ∧ Keeps m.LeavesEnd walker v'.walker := by
  obtain ⟨-, next, walker, hnext, rfl⟩ := h
  have hstep := Walker.tryNext_keeps (m := m) hw v.segment.finish
  rw [hnext] at hstep
  have hsignal := passSignal_keepsRoute (m := m)
    (v := { v with progress := v.progress - v.segment.length, walker })
    (hstep.remembers hw) v.segment.finish
  exact ⟨next, walker, hnext, rfl, rfl, hstep, hsignal.walker⟩

theorem Passes.onRoute (hl : m.Linked) (hv : OnRoute m v) (h : Passes m v v') :
    OnRoute m v' ∧ Keeps m.LeavesEnd v.walker v'.walker := by
  obtain ⟨next, walker, hnext, hstart, hfinish, hstep, hsignal⟩ := h.steps hv.remembers
  obtain ⟨hmade, hfirm⟩ := Walker.tryNext_made hv.remembers hnext
  obtain ⟨through, hfrom, -⟩ := hv.made
  have hkeeps := hstep.trans hsignal
  have hpassage : v'.passage (v.walker.branches m v.segment.finish) =
      ⟨v.segment.finish, v.walker.branches m v.segment.finish, next⟩ := by
    unfold passage
    rw [hstart, hfinish]
  refine ⟨⟨hkeeps.remembers hv.remembers,
    ⟨v.walker.branches m v.segment.finish, ?_, fun _ => ?_⟩, ?_⟩, hkeeps⟩
  · rw [hpassage]
    exact hmade.keeps hsignal
  · rw [hpassage]
    exact hfirm.keeps_ahead hl hmade hsignal
  · -- it comes from the segment that it was on
    rw [hstart]
    exact Or.inl ⟨_, hfrom.keeps hkeeps, rfl⟩

theorem Step.onRoute (hl : m.Linked) (hv : OnRoute m v) (h : Step m s v v') :
    OnRoute m v' ∧ Keeps m.LeavesEnd v.walker v'.walker := by
  cases h with
  | departs now => exact ⟨hv.keeps hl rfl rfl (.refl _), .refl _⟩
  | passes h => exact h.onRoute hl hv
  | arrives now =>
    have hkeeps : Keeps m.LeavesEnd v.walker (v.fitTangents m).walker := by
      rw [hv.fitTangents_walker hl]
      exact Walker.tryNext_keeps hv.remembers _
    exact ⟨hv.keeps hl rfl rfl hkeeps, hkeeps⟩
  | looksOut h =>
    have hkeeps := lookOut_keepsRoute hv.remembers h
    exact ⟨hv.of_keepsRoute hl hkeeps, hkeeps.walker⟩
  | aims => exact ⟨hv.keeps hl rfl rfl (.refl _), .refl _⟩

theorem Rolls.onRoute (hl : m.Linked) (hv : OnRoute m v) (h : Rolls m s v v') :
    OnRoute m v' ∧ Keeps m.LeavesEnd v.walker v'.walker := by
  induction h with
  | refl => exact ⟨hv, .refl _⟩
  | tail _ hstep ih =>
    obtain ⟨hon, hkeeps⟩ := ih
    obtain ⟨hon', hkeeps'⟩ := hstep.onRoute hl hon
    exact ⟨hon', hkeeps.trans hkeeps'⟩

/-! ## Tangents that fit the way ahead -/

/-- The tangent at the finish of a segment when the way goes on to the point after it. -/
def finishTangent (m : RoadMap α) (start finish : PointId) (after : Option PointId) : Vec3 α :=
  match after with
  | some p => ((m.point p).position - (m.point start).position).scale (1 / 2)
  | none => ((m.point finish).position - (m.point start).position).scale (1 / 2)

/-- The tangent at the start of a segment when the way comes from the point before it. -/
def startTangent (m : RoadMap α) (start finish : PointId) (before : Option PointId) : Vec3 α :=
  match before with
  | some p => ((m.point finish).position - (m.point p).position).scale (1 / 2)
  | none => ((m.point finish).position - (m.point start).position).scale (1 / 2)

/-- The tangent at the finish is that of the way that the walker goes on. -/
def Fitted (m : RoadMap α) (v : Vehicle α ρ) : Prop :=
  ∃ after, v.segment.finishTangent = finishTangent m v.segment.start v.segment.finish after ∧
    ∀ later, Keeps m.LeavesEnd v.walker later →
      later.tryNext m v.segment.finish = (after, later)

theorem Fitted.of_keepsRoute (h : Fitted m v) (hkeeps : KeepsRoute m v v') : Fitted m v' := by
  obtain ⟨after, htangent, hagain⟩ := h
  refine ⟨after, ?_, fun later hlater => ?_⟩
  · rw [hkeeps.segment]
    exact htangent
  · rw [hkeeps.segment]
    exact hagain later (hkeeps.walker.trans hlater)

theorem fitTangents_fitted (hl : m.Linked) (hw : v.walker.remembers = true) :
    Fitted m (v.fitTangents m) := by
  have hback := Walker.remembers_tryPrevious m hw v.segment.start
  exact ⟨_, rfl, fun later hlater => Walker.tryNext_again hl hback rfl hlater⟩

theorem fitTangents_remembers (hw : v.walker.remembers = true) :
    (v.fitTangents m).walker.remembers = true := by
  have hback := Walker.remembers_tryPrevious m hw v.segment.start
  exact (Walker.tryNext_keeps hback v.segment.finish).remembers hback

/-! ## Vehicles that drive -/

/-- A vehicle that is placed begins a segment that its walker has chosen. -/
theorem place_ok {point : PointId} {now : Millis} {renewed : Bool}
    (h : Answers (v.place m s point now renewed) (.ok (), v')) :
    ∃ next walker, v.walker.clear.tryNext m point = (some next, walker) ∧
      KeepsRoute m ((enter m point next { v with progress := 0, walker }).fitTangents m) v' := by
  rcases place_ends h with ⟨walker, -, hok, -⟩ | ⟨next, walker, u, hnext, -, hu, hsettle⟩
  · cases hok
  refine ⟨next, walker, hnext, ?_⟩
  obtain ⟨protectedUntil, random, safetyDistanceSquared, rfl⟩ := settle_changes hsettle
  rcases hu with ⟨-, hrenew⟩ | ⟨-, rfl⟩
  · obtain ⟨factor, rest, random', status, -, rfl⟩ := renew_changes hrenew
    exact keepsRoute_of_eq rfl rfl
  · exact keepsRoute_of_eq rfl rfl

/-- A vehicle that is placed waits for nothing and signals nothing. -/
theorem place_settled {point : PointId} {now : Millis} {renewed : Bool}
    (h : Answers (v.place m s point now renewed) (.ok (), v')) :
    v'.placed = true ∧ v'.wait = .over ∧ v'.signal = .off := by
  rcases place_ends h with ⟨walker, -, hok, -⟩ | ⟨next, walker, u, -, -, -, hsettle⟩
  · cases hok
  · obtain ⟨protectedUntil, random, safetyDistanceSquared, rfl⟩ := settle_changes hsettle
    exact ⟨rfl, rfl, rfl⟩

theorem place_onRoute (hl : m.Linked) (hw : v.walker.remembers = true) {point : PointId}
    {now : Millis} {renewed : Bool} (h : Answers (v.place m s point now renewed) (.ok (), v')) :
    OnRoute m v' ∧ Fitted m v' := by
  obtain ⟨next, walker, hnext, hkeeps⟩ := place_ok h
  have hwalker := Walker.tryNext_keeps (m := m) (w := v.walker.clear) hw point
  obtain ⟨hmade, hfirm⟩ := Walker.tryNext_made (w := v.walker.clear) hw hnext
  rw [hnext] at hwalker
  have hremembers := hwalker.remembers hw
  -- the look back decides against what was decided only where a lane begins
  have hback : Keeps (fun j => (m.point point).merge = some j ∧ (m.point point).previous = none)
      walker (walker.tryPrevious m point).2 := by
    rw [Walker.tryPrevious_eq]
    refine (Walker.tryNext_step hremembers rfl).keeps hremembers fun j hbranch hnext => ?_
    rw [RoadMap.point_reverse] at hbranch hnext
    exact Or.inr ⟨hbranch, hnext⟩
  have hahead := Walker.tryNext_keeps (m := m) (hback.remembers hremembers) next
  have hfitted := fitTangents_fitted (v := enter m point next { v with progress := 0, walker })
    hl hremembers
  have hon : OnRoute m ((enter m point next { v with progress := 0, walker }).fitTangents m) := by
    refine ⟨hahead.remembers (hback.remembers hremembers),
      ⟨_, (hmade.keeps hback).keeps hahead, fun hloop => ?_⟩,
      (Walker.arrived_of_tryPrevious hl hremembers point).keeps hahead⟩
    have hfirm' : Firm m (walker.tryPrevious m point).2
        ⟨point, v.walker.clear.branches m point, next⟩ := by
      refine hfirm.keeps hback fun _ j hj => ?_
      rintro ⟨hmerge, hprevious⟩
      exact hloop ⟨hprevious, j, hj, hmerge⟩
    exact hfirm'.keeps_ahead hl (hmade.keeps hback) hahead
  exact ⟨hon.of_keepsRoute hl hkeeps, hfitted.of_keepsRoute hkeeps⟩

/-- The vehicle at the end of its way, for which its walker looked further. -/
def stranded (m : RoadMap α) (v : Vehicle α ρ) : Vehicle α ρ :=
  { v with
    progress := v.progress - v.segment.length
    walker := (v.walker.tryNext m v.segment.finish).2 }

/-- A drive passes points, and ends on a segment or at a dead end. -/
theorem drive_cases {limit : Nat} {d : Drive α ρ} (h : Answers (v.drive m limit) d) :
    ∃ u, Relation.ReflTransGen (Passes m) v u ∧
      (¬ u.segment.length < u.progress ∧ d = .onSegment u ∨
        u.segment.length < u.progress ∧ (u.walker.tryNext m u.segment.finish).1 = none ∧
          d = .atDeadEnd (u.stranded m)) := by
  induction limit generalizing v with
  | zero => cases h
  | succ limit ih =>
    unfold drive at h
    split at h
    · next hpast =>
      dsimp only at h
      split at h
      · next walker hwalker =>
        cases h
        refine ⟨v, .refl, Or.inr ⟨hpast, by rw [hwalker], ?_⟩⟩
        unfold stranded
        rw [hwalker]
      · next next walker hwalker =>
        obtain ⟨u, hu, hd⟩ := ih h
        exact ⟨u, hu.head ⟨hpast, next, walker, hwalker, rfl⟩, hd⟩
    · next hpast =>
      cases h
      exact ⟨v, .refl, Or.inl ⟨hpast, rfl⟩⟩

/-- A vehicle on the road that is moved on departs and passes points until it is on a segment longer
than its progress. Or its way ends before, and it is placed at the origin. -/
theorem update_ends {now : Millis} {outcome : Except DeadEnd Unit}
    (h : Answers (v.update m s now) (outcome, v')) :
    (v.placed = false ∧ outcome = .ok () ∧ v' = v) ∨
      v.placed = true ∧ ∃ u, Relation.ReflTransGen (Passes m) (v.depart now) u ∧
        (¬ u.segment.length < u.progress ∧ outcome = .ok () ∧
            v' = (u.fitTangents m).report m s now ∨
          u.segment.length < u.progress ∧ (u.walker.tryNext m u.segment.finish).1 = none ∧
            Answers ((u.stranded m).place m s m.origin now false) (outcome, v')) := by
  unfold update at h
  split at h
  · next hplaced =>
    obtain ⟨d, hd, h⟩ := answers_bind h
    obtain ⟨u, hu, hend⟩ := drive_cases (answers_lift hd)
    refine Or.inr ⟨hplaced, u, hu, ?_⟩
    rcases hend with ⟨hshort, rfl⟩ | ⟨hpast, hnone, rfl⟩
    · cases answers_pure h
      exact Or.inl ⟨hshort, rfl, rfl⟩
    · obtain ⟨-, -, h⟩ := answers_bind h
      exact Or.inr ⟨hpast, hnone, answers_lift h⟩
  · next hplaced =>
    cases answers_pure h
    exact Or.inl ⟨by simpa using hplaced, rfl, rfl⟩

/-- A vehicle on the road that is moved on departs, passes points and arrives, or it comes to a dead
end and is placed at the origin. -/
theorem update_cases {now : Millis} {outcome : Except DeadEnd Unit}
    (h : Answers (v.update m s now) (outcome, v')) :
    (v.placed = false ∧ v' = v) ∨
      ∃ u, Relation.ReflTransGen (Passes m) (v.depart now) u ∧
        (v' = (u.fitTangents m).report m s now ∨
          Answers ((u.stranded m).place m s m.origin now false) (outcome, v')) := by
  rcases update_ends h with ⟨hplaced, -, hsame⟩ | ⟨-, u, hu, ⟨-, -, hend⟩ | ⟨-, -, hend⟩⟩
  · exact Or.inl ⟨hplaced, hsame⟩
  · exact Or.inr ⟨u, hu, Or.inl hend⟩
  · exact Or.inr ⟨u, hu, Or.inr hend⟩

/-- A vehicle that was placed on the road and has done nothing but drive since then. -/
inductive Driving (m : RoadMap α) (s : Settings α) : Vehicle α ρ → Prop
  | placed {v v' : Vehicle α ρ} {point : PointId} {now : Millis} {renewed : Bool}
    (hw : v.walker.remembers = true) (h : Answers (v.place m s point now renewed) (.ok (), v')) :
    Driving m s v'
  | updated {v v' : Vehicle α ρ} {now : Millis} (hv : Driving m s v)
    (h : Answers (v.update m s now) (.ok (), v')) : Driving m s v'
  | lookedOut {v v' : Vehicle α ρ} {around : Surroundings α} {now : Millis} (hv : Driving m s v)
    (h : Answers (v.lookOut m s around now) v') : Driving m s v'
  | aimed {v : Vehicle α ρ} (hv : Driving m s v) (target deceleration acceleration : α) :
    Driving m s (v.aim target deceleration acceleration)

/-- Passing points is a way to roll. -/
theorem rolls_of_passes {now : Millis} (h : Relation.ReflTransGen (Passes m) (v.depart now) v') :
    Rolls m s v v' :=
  .head (.departs now) (Relation.ReflTransGen.mono (fun _ _ hpass => Step.passes hpass) _ _ h)

/-- Vehicles that drive are on their route, and their tangents fit it. -/
theorem Driving.onRoute (hl : m.Linked) (h : Driving m s v) : OnRoute m v ∧ Fitted m v := by
  induction h with
  | placed hw h => exact place_onRoute hl hw h
  | updated _ h ih =>
    rcases update_cases h with ⟨-, rfl⟩ | ⟨u, hu, rfl | hplace⟩
    · exact ih
    · have hon := ((rolls_of_passes (s := s) hu).onRoute hl ih.1).1
      exact ⟨((Step.arrives _).onRoute (s := s) hl hon).1,
        (fitTangents_fitted hl hon.remembers).of_keepsRoute (keepsRoute_of_eq rfl rfl)⟩
    · have hon := ((rolls_of_passes (s := s) hu).onRoute hl ih.1).1
      exact place_onRoute hl ((Walker.tryNext_keeps hon.remembers _).remembers hon.remembers) hplace
  | lookedOut _ h ih =>
    have hkeeps := lookOut_keepsRoute ih.1.remembers h
    exact ⟨ih.1.of_keepsRoute hl hkeeps, ih.2.of_keepsRoute hkeeps⟩
  | aimed _ target deceleration acceleration ih =>
    exact ⟨ih.1.of_keepsRoute hl (keepsRoute_of_eq rfl rfl),
      ih.2.of_keepsRoute (keepsRoute_of_eq rfl rfl)⟩

end Vehicle

end RoadTraffic
