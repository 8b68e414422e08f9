import Mathlib.Algebra.BigOperators.Group.Finset.Basic
import RoadTraffic.Proofs.Vehicle.OnTheRoad
import RoadTraffic.Proofs.Vehicle.Tangents

/-!
# Where the driven distance goes

When a vehicle is moved on, the distance that its speed gives is added to its progress, and the
length of every segment that it leaves is taken away again. So in exact arithmetic no distance is
lost and none is made up: what the vehicle has behind it, the segments that it left and the progress
on the last one, is what it had before and what it drove (`update_distance`).

The account is kept in `Legs`, along the points that the walker goes to one by one. A point that is
passed adds one leg to it (`Legs.cons`), and so a drive has one from its start to its end
(`exists_legs`).
-/

namespace RoadTraffic

namespace Vehicle

open ExactScalar

/-- The distance that the vehicle drives until a time. -/
def driven {α ρ : Type} [Scalar α] (now : Millis) (v : Vehicle α ρ) : α :=
  (v.speed.advance (Scalar.ofNat (now - v.lastMoved) / 1000) v.maxSpeed).1

/-- A vehicle that passes a point asks its walker for the way on, and then about one junction at
most. -/
theorem Passes.asks {α ρ : Type} [Scalar α] [RandomSource ρ] {m : RoadMap α} {v v' : Vehicle α ρ}
    (h : Passes m v v') :
    ∃ asked, v.walker.tryNext m v.segment.finish = (some v'.segment.finish, asked) ∧
      (v'.walker = asked ∨ ∃ j, v'.walker = (asked.takes m j).2) := by
  obtain ⟨-, next, asked, hnext, rfl⟩ := h
  obtain ⟨walker, signal, hsignal, hwalker⟩ := passSignal_changes (m := m)
    (v := { v with progress := v.progress - v.segment.length, walker := asked }) v.segment.finish
  rw [hsignal]
  exact ⟨asked, hnext, hwalker⟩

variable {K ρ : Type} [Field K] [LinearOrder K] [Scalar K]

/-- The length of the way along the first points of a sequence. -/
def wayLength (m : RoadMap K) (c : ℕ → PointId) (n : ℕ) : K :=
  ∑ i ∈ Finset.range n, m.distance (c i) (c (i + 1))

/-- A sequence with one more element before the first one. -/
def preceded {β : Type} (first : β) (rest : ℕ → β) : ℕ → β
  | 0 => first
  | n + 1 => rest n

omit [LinearOrder K] in
theorem wayLength_zero (m : RoadMap K) (c : ℕ → PointId) : wayLength m c 0 = 0 := by
  unfold wayLength
  rw [Finset.range_zero, Finset.sum_empty]

omit [LinearOrder K] in
theorem wayLength_preceded (m : RoadMap K) (p : PointId) (c : ℕ → PointId) (n : ℕ) :
    wayLength m (preceded p c) (n + 1) = m.distance p (c 0) + wayLength m c n := by
  unfold wayLength
  rw [Finset.sum_range_succ', add_comm]
  rfl

variable [RandomSource ρ]

/-- A vehicle `v` goes along the points of a sequence, and is `u` when it has left `k` segments. At
the end of segment `i` the walker `w i` is asked for the way on, and before it is asked again it may
have been asked whether it takes a junction. -/
structure Legs (m : RoadMap K) (v u : Vehicle K ρ) (k : ℕ) (c : ℕ → PointId) (w : ℕ → Walker ρ) :
    Prop where
  start : c 0 = v.segment.start
  finish : c 1 = v.segment.finish
  walker : w 0 = v.walker
  last_start : c k = u.segment.start
  last_finish : c (k + 1) = u.segment.finish
  last_length : u.segment.length = m.distance (c k) (c (k + 1))
  /-- Each point is the one that the walker goes to from the point before it. -/
  next : ∀ i < k, ∃ asked, (w i).tryNext m (c (i + 1)) = (some (c (i + 2)), asked) ∧
    (w (i + 1) = asked ∨ ∃ j, w (i + 1) = (asked.takes m j).2)
  /-- What is left behind and the progress on the last segment are the progress at first. -/
  balance : u.progress + wayLength m c k = v.progress
  /-- A segment is left when there is more progress left than it is long. -/
  left_late : ∀ j < k, m.distance (c j) (c (j + 1)) < v.progress - wayLength m c j

variable {m : RoadMap K} {s : Settings K} {v v' u : Vehicle K ρ}

/-- A vehicle that is where it was has no leg behind it. -/
theorem legs_none (hlength : v.segment.length = m.distance v.segment.start v.segment.finish) :
    Legs m v v 0 (preceded v.segment.start fun _ => v.segment.finish) fun _ => v.walker where
  start := rfl
  finish := rfl
  walker := rfl
  last_start := rfl
  last_finish := rfl
  last_length := hlength
  next i hi := absurd hi (Nat.not_lt_zero i)
  balance := by rw [wayLength_zero, add_zero]
  left_late j hj := absurd hj (Nat.not_lt_zero j)

variable [IsStrictOrderedRing K] [ExactScalar K]

/-- A point that is passed adds one leg. -/
theorem Legs.cons {k : ℕ} {c : ℕ → PointId} {w : ℕ → Walker ρ}
    (hlength : v.segment.length = m.distance v.segment.start v.segment.finish)
    (hpass : Passes m v v') (h : Legs m v' u k c w) :
    Legs m v u (k + 1) (preceded v.segment.start c) (preceded v.walker w) := by
  obtain ⟨-, hstart, hprogress⟩ := hpass.onWay
  rw [scalar_sub_eq] at hprogress
  have hpast := hpass.1
  rw [scalar_lt_iff] at hpast
  have hfirst : m.distance v.segment.start (c 0) = v.segment.length := by
    rw [h.start, hstart, hlength]
  refine ⟨rfl, h.start.trans hstart, rfl, h.last_start, h.last_finish, h.last_length,
    fun i hi => ?_, ?_, fun j hj => ?_⟩
  · cases i with
    | zero =>
      obtain ⟨asked, hnext, hwalker⟩ := hpass.asks
      rw [← hstart, ← h.start, ← h.finish] at hnext
      rw [← h.walker] at hwalker
      exact ⟨asked, hnext, hwalker⟩
    | succ i => exact h.next i (Nat.lt_of_succ_lt_succ hi)
  · rw [wayLength_preceded, hfirst]
    have hbalance := h.balance
    linarith
  · cases j with
    | zero =>
      rw [wayLength_zero, sub_zero]
      exact hfirst.trans_lt hpast
    | succ j =>
      have hlate := h.left_late j (Nat.lt_of_succ_lt_succ hj)
      rw [wayLength_preceded, hfirst]
      show m.distance (c j) (c (j + 1)) < _
      linarith

/-- The points that a vehicle passes make legs. -/
theorem exists_legs (h : Relation.ReflTransGen (Passes m) v u)
    (hlength : v.segment.length = m.distance v.segment.start v.segment.finish) :
    ∃ k c w, Legs m v u k c w := by
  induction h using Relation.ReflTransGen.head_induction_on with
  | refl => exact ⟨0, _, _, legs_none hlength⟩
  | head hpass _ ih =>
    obtain ⟨k, c, w, hlegs⟩ := ih hpass.onWay.1.length
    exact ⟨k + 1, _, _, hlegs.cons hlength hpass⟩

/-- **No distance is lost or made up.** A vehicle whose segment is as long as the way between its
points is moved on and comes to no dead end. Then it has gone along points, each of which is the one
that its walker goes to from the point before, and the segments that it left and its progress on the
last one make up the progress that it had and the distance that its speed gave. It is not past the
end of the last segment, and left each of the others only with more progress than it is long. -/
theorem update_distance {now : Millis} {outcome : Except DeadEnd Unit} (hplaced : v.placed = true)
    (hlength : v.segment.length = m.distance v.segment.start v.segment.finish)
    (h : Answers (v.update m s now) (outcome, v')) (hdead : ¬ v.RunsIntoDeadEnd m now) :
    ∃ (k : ℕ) (c : ℕ → PointId) (w : ℕ → Walker ρ),
      c 0 = v.segment.start ∧ c 1 = v.segment.finish ∧ w 0 = v.walker ∧
      c k = v'.segment.start ∧ c (k + 1) = v'.segment.finish ∧
      (∀ i < k, ∃ asked, (w i).tryNext m (c (i + 1)) = (some (c (i + 2)), asked) ∧
        (w (i + 1) = asked ∨ ∃ j, w (i + 1) = (asked.takes m j).2)) ∧
      v'.progress + wayLength m c k = v.progress + v.driven now ∧
      v'.progress ≤ m.distance (c k) (c (k + 1)) ∧
      ∀ j < k, m.distance (c j) (c (j + 1)) < v.progress + v.driven now - wayLength m c j := by
  rcases update_ends h with ⟨hoff, -⟩ | ⟨-, u, hu, ⟨hshort, -, rfl⟩ | ⟨hpast, hnone, -⟩⟩
  · rw [hplaced] at hoff
    cases hoff
  · have hdepart : (v.depart now).progress = v.progress + v.driven now := scalar_add_eq ..
    obtain ⟨k, c, w, hlegs⟩ := exists_legs hu hlength
    rw [scalar_lt_iff, not_lt, hlegs.last_length] at hshort
    rw [← hdepart]
    exact ⟨k, c, w, hlegs.start, hlegs.finish, hlegs.walker, hlegs.last_start, hlegs.last_finish,
      hlegs.next, hlegs.balance, hshort, hlegs.left_late⟩
  · exact absurd ⟨u, hu, hpast, Walker.not_leads_of_tryNext hnone⟩ hdead

private theorem setOffForRamp : (placeOnRing 0 ⟨2⟩ #[]).1.isOk = true := by decide +kernel

/-- A vehicle that sets off on the ring and is going to take the ramp. -/
private def beforeRamp : Vehicle Rat (Tape fun _ _ => 0) := (answerOf _ setOffForRamp).2

private theorem drivenByRamp :
    (beforeRamp.update ringWithRamp evenRoadSettings 24000 #[]).1.isOk = true := by decide +kernel

/-- The vehicle 24 seconds later, when it is back on the ring. -/
private def behindRamp : Vehicle Rat (Tape fun _ _ => 0) := (answerOf _ drivenByRamp).2

/-- It did not restart, since it would be at the beginning of a segment then. -/
private theorem beforeRamp_alive : ¬ beforeRamp.RunsIntoDeadEnd ringWithRamp 24000 := by
  intro hdead
  obtain ⟨u, -, hplace⟩ :=
    place_of_deadEnd (by decide +kernel) hdead (answers_answerOf drivenByRamp)
  rcases place_onWay hplace with ⟨hno, -⟩ | ⟨-, -, hbegins, -⟩
  · exact hno ⟨1⟩ (RoadMap.leads_iff.mpr (Or.inl (by decide +kernel)))
  · have hprogress : behindRamp.progress ≠ 0 := by decide +kernel
    exact hprogress hbegins.progress

/-- Along the ring and by way of the ramp the vehicle has left 481 m behind, which with its progress
on the last segment is what it drove. -/
theorem update_distance_by_ramp :
    beforeRamp.placed = true ∧ beforeRamp.segment.length =
        ringWithRamp.distance beforeRamp.segment.start beforeRamp.segment.finish ∧
      Answers (beforeRamp.update ringWithRamp evenRoadSettings 24000) (.ok (), behindRamp) ∧
      ¬ beforeRamp.RunsIntoDeadEnd ringWithRamp 24000 ∧
      beforeRamp.driven 24000 = 1600 / 3 ∧ behindRamp.progress = 157 / 3 ∧
      ∃ k c, c 0 = ⟨2⟩ ∧ c k = ⟨1⟩ ∧ wayLength ringWithRamp c k = 481 := by
  have hplaced : beforeRamp.placed = true := by decide +kernel
  have hlength : beforeRamp.segment.length =
      ringWithRamp.distance beforeRamp.segment.start beforeRamp.segment.finish := by
    decide +kernel
  have hupdate : Answers (beforeRamp.update ringWithRamp evenRoadSettings 24000)
      (.ok (), behindRamp) := by
    have hanswer := answers_answerOf drivenByRamp
    rwa [show answerOf _ drivenByRamp = (.ok (), behindRamp) from
      Prod.ext (by decide +kernel) rfl] at hanswer
  have hprogress : behindRamp.progress = 157 / 3 := by decide +kernel
  have hdriven : beforeRamp.driven 24000 = 1600 / 3 := by decide +kernel
  have hstart : beforeRamp.progress = 0 := by decide +kernel
  obtain ⟨k, c, w, hfirst, -, -, hlast, -, -, hbalance, -, -⟩ :=
    update_distance hplaced hlength hupdate beforeRamp_alive
  rw [hprogress, hdriven, hstart] at hbalance
  exact ⟨hplaced, hlength, hupdate, beforeRamp_alive, hdriven, hprogress, k, c,
    hfirst.trans (by decide +kernel), hlast.trans (by decide +kernel), by linarith⟩

end Vehicle

end RoadTraffic
