import RoadTraffic.Proofs.Random.Tape
import RoadTraffic.Proofs.Route.Passages
import RoadTraffic.Proofs.Scalar.Rational

/-!
# Walking there and back

A walker that has decided nothing yet walks some steps ahead. What it finds decided at the end is
what it did on the way: all passages of the walk are made, and it means to take only junctions that
it went through (`next_made`). So it finds its way back step by step, without deciding anything,
unless it came to a point both through a junction and along the lane (`retraces`). One step back
always leads to where the walk came from, or through the junction that the walk once came through
(`tryPrevious_of_next`).
-/

namespace RoadTraffic

namespace Walker

section

variable {ρ : Type} {step : PointId → Walker ρ → Option PointId × Walker ρ}

/-- The passages of a walk of up to `n` steps. -/
def trail (step : PointId → Walker ρ → Option PointId × Walker ρ)
    (leaves : PointId → Walker ρ → Bool) : Nat → PointId → Walker ρ → List Passage
  | 0, _, _ => []
  | n + 1, p, w =>
    match step p w with
    | (some q, w') => ⟨p, leaves p w, q⟩ :: trail step leaves n q w'
    | (none, _) => []

/-- The last step of a walk comes after the others. -/
theorem repeatStep_succ (n : Nat) (p : PointId) (w : Walker ρ) :
    repeatStep step (n + 1) p w =
      match repeatStep step n p w with
      | (some q, w') => step q w'
      | (none, w') => (none, w') := by
  induction n generalizing p w with
  | zero =>
    simp only [repeatStep]
    rcases step p w with ⟨_ | q, w'⟩ <;> rfl
  | succ n ih =>
    rw [repeatStep]
    conv => rhs; rw [repeatStep]
    rcases step p w with ⟨_ | q, w'⟩
    · rfl
    · exact ih q w'

end

/-- Points are always reached in the same way, through a junction or along the lane. -/
def Steady (trail : List Passage) : Prop :=
  ∀ s ∈ trail, ∀ s' ∈ trail, s.target = s'.target → s.through = s'.through

instance (trail : List Passage) : Decidable (Steady trail) :=
  inferInstanceAs (Decidable (∀ s ∈ trail, ∀ s' ∈ trail, s.target = s'.target →
    s.through = s'.through))

variable {α ρ : Type} [Scalar α] [RandomSource ρ] {m : RoadMap α} {w w' : Walker ρ}

/-- Whether the walker leaves its lane through a junction with its next step back. -/
def merges (m : RoadMap α) (p : PointId) (w : Walker ρ) : Bool :=
  (w.choose m (m.point p).merge (fun j => (m.junction j).start) (m.point p).previous).2.1

/-- The passages of a walk ahead. -/
def ahead (m : RoadMap α) (n : Nat) (p : PointId) (w : Walker ρ) : List Passage :=
  trail (tryNext m) (branches m) n p w

/-- The passages of a walk back. -/
def back (m : RoadMap α) (n : Nat) (p : PointId) (w : Walker ρ) : List Passage :=
  trail (tryPrevious m) (merges m) n p w

theorem next_succ {n : Nat} {p q : PointId} (h : w.tryNext m p = (some q, w')) :
    w.next m p (n + 1) = w'.next m q n := by
  unfold next
  rw [repeatStep, h]

theorem ahead_succ {n : Nat} {p q : PointId} (h : w.tryNext m p = (some q, w')) :
    w.ahead m (n + 1) p = ⟨p, w.branches m p, q⟩ :: w'.ahead m n q := by
  unfold ahead
  rw [trail, h]

/-- A walk of more than no steps that arrives takes its first step. -/
theorem tryNext_of_next {n : Nat} {p q : PointId} (h : (w.next m p (n + 1)).1 = some q) :
    ∃ r w', w.tryNext m p = (some r, w') := by
  unfold next at h
  rw [repeatStep] at h
  rcases hstep : w.tryNext m p with ⟨_ | r, w'⟩
  · rw [hstep] at h
    cases h
  · exact ⟨r, w', rfl⟩

/-- What a walk leaves behind: its passages are made, and junctions are meant to be taken only if
they were before or the walk went through them. -/
theorem next_made (hw : w.remembers = true) {n : Nat} {p q : PointId}
    (h : w.next m p n = (some q, w')) :
    Keeps m.LeavesEnd w w' ∧ (∀ s ∈ w.ahead m n p, Made m w' s) ∧
      ∀ j, w'.decided j = some true → w.decided j = some true ∨
        ∃ s ∈ w.ahead m n p, s.through = true ∧ (m.point s.source).branch = some j := by
  induction n generalizing p w with
  | zero =>
    cases h
    exact ⟨.refl _, by simp [ahead, trail], fun j hj => Or.inl hj⟩
  | succ n ih =>
    obtain ⟨r, between, hstep⟩ := tryNext_of_next (m := m) (q := q) (by rw [h])
    rw [next_succ hstep] at h
    rw [ahead_succ hstep]
    have hfirst := tryNext_keeps (m := m) hw p
    rw [hstep] at hfirst
    obtain ⟨hkeeps, hmade, htaken⟩ := ih (hfirst.remembers hw) h
    refine ⟨hfirst.trans hkeeps, ?_, fun j hj => ?_⟩
    · intro s hs
      rcases List.mem_cons.mp hs with rfl | hs
      · exact (tryNext_made hw hstep).1.keeps hkeeps
      · exact hmade s hs
    · rcases htaken j hj with hj | ⟨s, hs, hthrough, hbranch⟩
      · rcases (tryNext_step hw hstep).taken hw hj with hj | ⟨hthrough, hbranch⟩
        · exact Or.inl hj
        · exact Or.inr ⟨_, List.mem_cons_self .., hthrough, hbranch⟩
      · exact Or.inr ⟨s, List.mem_cons_of_mem _ hs, hthrough, hbranch⟩

/-- Who finds back from each passage of a walk finds back from the whole walk. -/
theorem previous_of_passages {final : Walker ρ} {n : Nat} {p q : PointId}
    (hback : ∀ s ∈ w.ahead m n p, final.tryPrevious m s.target = (some s.source, final))
    (h : (w.next m p n).1 = some q) :
    ∀ k ≤ n, final.previous m q k = ((w.next m p (n - k)).1, final) := by
  induction n generalizing p w with
  | zero =>
    intro k hk
    obtain rfl := Nat.le_zero.mp hk
    exact Prod.ext h.symm rfl
  | succ n ih =>
    obtain ⟨r, between, hstep⟩ := tryNext_of_next h
    rw [next_succ hstep] at h
    rw [ahead_succ hstep] at hback
    have hrest := ih (fun s hs => hback s (List.mem_cons_of_mem _ hs)) h
    intro k hk
    rcases Nat.lt_or_ge n k with hlt | hle
    · -- the whole way back ends with the first passage
      obtain rfl : k = n + 1 := by omega
      have hlast := hrest n (Nat.le_refl n)
      rw [Nat.sub_self] at hlast ⊢
      unfold previous at hlast ⊢
      rw [repeatStep_succ, hlast]
      exact hback _ (List.mem_cons_self ..)
    · rw [Nat.succ_sub hle, next_succ hstep]
      exact hrest k hle

/-- At the end of a walker's first walk, the junction that it would go back through is one that it
came through. -/
theorem through_of_next (hl : m.Linked) (hw : w.remembers = true) (hfresh : w.decisions = [])
    {n : Nat} {p q : PointId} (h : w.next m p n = (some q, w')) {r : PointId} {j : JunctionId}
    (hmerge : (m.point r).merge = some j) (hj : w'.decided j = some true) :
    ∃ s ∈ w.ahead m n p, s.through = true ∧ s.target = r := by
  obtain ⟨-, hmade, htaken⟩ := next_made hw h
  rcases htaken j hj with hj | ⟨s, hs, hthrough, hbranch⟩
  · rw [decided, hfresh] at hj
    cases hj
  · refine ⟨s, hs, hthrough, ?_⟩
    rw [(hmade s hs).target_eq hthrough hbranch]
    exact hl.finish_of_merge hmerge

/-- A walker finds back from a steady first walk. -/
theorem previous_of_next (hl : m.Linked) (hw : w.remembers = true) (hfresh : w.decisions = [])
    {n : Nat} {p q : PointId} (h : (w.next m p n).1 = some q) (hsteady : Steady (w.ahead m n p)) :
    ∀ k ≤ n, (w.next m p n).2.previous m q k =
      ((w.next m p (n - k)).1, (w.next m p n).2) := by
  have hwalk : w.next m p n = (some q, (w.next m p n).2) := Prod.ext h rfl
  refine previous_of_passages (fun s hs => ?_) h
  have hmade := (next_made hw hwalk).2.1 s hs
  refine tryPrevious_eq_source hl hmade fun j hj hd => ?_
  -- the walk came through the junction, and so it always came to its end
  obtain ⟨s', hs', hthrough, htarget⟩ := through_of_next hl hw hfresh hwalk hj hd
  rw [← hsteady s hs s' hs' htarget.symm] at hthrough
  exact hmade.start_eq hl hthrough hj

/-- A walk of more than no steps ends with a passage. -/
theorem exists_last {n : Nat} {p q : PointId} (h : (w.next m p (n + 1)).1 = some q) :
    ∃ r through, (w.next m p n).1 = some r ∧ ⟨r, through, q⟩ ∈ w.ahead m (n + 1) p := by
  induction n generalizing p w with
  | zero =>
    obtain ⟨r, between, hstep⟩ := tryNext_of_next h
    rw [next_succ hstep] at h
    obtain rfl : r = q := Option.some.inj h
    rw [ahead_succ hstep]
    exact ⟨p, _, rfl, List.mem_cons_self ..⟩
  | succ n ih =>
    obtain ⟨r, between, hstep⟩ := tryNext_of_next h
    rw [next_succ hstep] at h
    obtain ⟨r', through, hr', hmem⟩ := ih h
    rw [next_succ hstep, ahead_succ hstep]
    exact ⟨r', through, hr', List.mem_cons_of_mem _ hmem⟩

/-- One step back from the end of a first walk. It leads to where the walk came from, if and only if
the walk did not come through a junction from elsewhere at any time; otherwise it leads through that
junction. -/
theorem tryPrevious_of_next (hl : m.Linked) (hw : w.remembers = true) (hfresh : w.decisions = [])
    {n : Nat} {p q : PointId} (h : w.next m p (n + 1) = (some q, w')) :
    ∃ r, (w.next m p n).1 = some r ∧
      ((w'.tryPrevious m q).1 = some r ↔
        ∀ s ∈ w.ahead m (n + 1) p, s.target = q → s.through = true → s.source = r) ∧
      ∀ s ∈ w.ahead m (n + 1) p, s.target = q → s.through = true →
        (w'.tryPrevious m q).1 = some s.source := by
  obtain ⟨-, hmade, -⟩ := next_made hw h
  have hthrough : ∀ s ∈ w.ahead m (n + 1) p, s.target = q → s.through = true →
      (w'.tryPrevious m q).1 = some s.source := by
    intro s hs htarget hthrough
    rw [← htarget, tryPrevious_eq_source hl (hmade s hs) fun j hj _ =>
      (hmade s hs).start_eq hl hthrough hj]
  obtain ⟨r, through, hr, hlast⟩ := exists_last (w := w) (m := m) (q := q) (by rw [h])
  refine ⟨r, hr, ⟨fun hback s hs htarget hs' => ?_, fun hsources => ?_⟩, hthrough⟩
  · rw [hthrough s hs htarget hs', Option.some.injEq] at hback
    exact hback
  · -- either the walk came through the junction, from here, or it never did
    by_cases hever : ∃ s ∈ w.ahead m (n + 1) p, s.through = true ∧ s.target = q
    · obtain ⟨s, hs, hs', htarget⟩ := hever
      rw [hthrough s hs htarget hs', hsources s hs htarget hs']
    · rw [tryPrevious_eq_source hl (hmade _ hlast) fun j hj hd =>
        absurd (through_of_next hl hw hfresh h hj hd) hever]

theorem previous_eq (p : PointId) (n : Nat) (w : Walker ρ) :
    w.previous m p n = w.next m.reverse p n := by
  unfold previous next
  rw [tryPrevious_eq]

theorem next_eq (p : PointId) (n : Nat) (w : Walker ρ) :
    w.next m p n = w.previous m.reverse p n := by
  rw [previous_eq, RoadMap.reverse_reverse]

theorem back_eq (n : Nat) (p : PointId) (w : Walker ρ) :
    w.back m n p = w.ahead m.reverse n p := by
  have hmerges : merges m = branches (ρ := ρ) m.reverse := by
    funext p w
    unfold merges branches
    simp only [choose_reverse, RoadMap.point_reverse, RoadMap.junction_reverse]
    rfl
  unfold back ahead
  rw [tryPrevious_eq, hmerges]

/-- A walker that has just been made or cleared walks some steps ahead, and comes to no point both
through a junction and along the lane. Then it walks back the way it came: after each number of
steps back it is where it was before so many last steps ahead, and it has decided nothing more and
drawn nothing. The same holds for a walk back and then ahead. -/
theorem retraces (hm : m.Validated) (hw : w.remembers = true) (hfresh : w.decisions = [])
    (start finish : PointId) (n : Nat) :
    ((w.next m start n).1 = some finish → Steady (w.ahead m n start) →
      ∀ k ≤ n, (w.next m start n).2.previous m finish k =
        ((w.next m start (n - k)).1, (w.next m start n).2)) ∧
    ((w.previous m start n).1 = some finish → Steady (w.back m n start) →
      ∀ k ≤ n, (w.previous m start n).2.next m finish k =
        ((w.previous m start (n - k)).1, (w.previous m start n).2)) := by
  refine ⟨previous_of_next hm.linked hw hfresh, ?_⟩
  simp only [previous_eq, back_eq]
  simp only [next_eq (m := m)]
  exact previous_of_next hm.linked.reverse hw hfresh

end Walker

/-- A point of the ring or of its ramp. -/
private def ringPoint (index : Nat) (x z : Rat) (next previous : Option PointId)
    (branch merge : Option JunctionId) : RoadPoint Rat :=
  { RoadPoint.unlinked ⟨index⟩ ⟨x, 0, z⟩ with
    next, previous, branch, merge
    length := if next.isNone then 0 else if x < 0 then 40 else 100 }

/-- A junction that half of the vehicles take. -/
private def ringJunction (index : Nat) (start finish : PointId) : Junction Rat :=
  { Junction.plain start finish (1 / 2) with
    id := ⟨index⟩, whenTaken := .right, whenPassed := .left
    distanceBefore := 150, distanceAfter := 30 }

/-- A ring of four points and a ramp of three: a junction leads from the ring to the ramp, and
another one from the end of the ramp back to the ring. -/
def ringWithRamp : RoadMap Rat where
  points := #[
    ringPoint 0 0 0 (some ⟨1⟩) (some ⟨3⟩) none none,
    ringPoint 1 0 100 (some ⟨2⟩) (some ⟨0⟩) none (some ⟨1⟩),
    ringPoint 2 100 100 (some ⟨3⟩) (some ⟨1⟩) none none,
    ringPoint 3 100 0 (some ⟨0⟩) (some ⟨2⟩) (some ⟨0⟩) none,
    ringPoint 4 (-100) 20 (some ⟨5⟩) none none (some ⟨0⟩),
    ringPoint 5 (-100) 60 (some ⟨6⟩) (some ⟨4⟩) none none,
    ringPoint 6 (-100) 100 none (some ⟨5⟩) (some ⟨1⟩) none]
  junctions := #[ringJunction 0 ⟨3⟩ ⟨4⟩, ringJunction 1 ⟨6⟩ ⟨1⟩]
  splines :=
    [⟨"ring", [⟨0⟩, ⟨1⟩, ⟨2⟩, ⟨3⟩], true⟩, ⟨"ramp", [⟨4⟩, ⟨5⟩, ⟨6⟩], false⟩]
  tree := .empty

theorem ringWithRamp_validated : ringWithRamp.Validated := by
  unfold RoadMap.Validated
  decide +kernel

/-- A walker that has decided nothing yet and draws the same word over and over. -/
def repeatingWalker (word : UInt32) : Walker (Tape fun _ _ => 0) := ⟨[], true, fun _ => word⟩

/-- By way of the ramp from the ring to the ring, and back. -/
theorem retraces_by_ramp :
    ((repeatingWalker 0).next ringWithRamp ⟨2⟩ 5).1 = some ⟨1⟩ ∧
    (∀ k ≤ 5, ((repeatingWalker 0).next ringWithRamp ⟨2⟩ 5).2.previous ringWithRamp ⟨1⟩ k =
      (((repeatingWalker 0).next ringWithRamp ⟨2⟩ (5 - k)).1,
        ((repeatingWalker 0).next ringWithRamp ⟨2⟩ 5).2)) ∧
    ((repeatingWalker 0).previous ringWithRamp ⟨1⟩ 5).1 = some ⟨2⟩ ∧
    ∀ k ≤ 5, ((repeatingWalker 0).previous ringWithRamp ⟨1⟩ 5).2.next ringWithRamp ⟨2⟩ k =
      (((repeatingWalker 0).previous ringWithRamp ⟨1⟩ (5 - k)).1,
        ((repeatingWalker 0).previous ringWithRamp ⟨1⟩ 5).2) := by
  have hahead : ((repeatingWalker 0).next ringWithRamp ⟨2⟩ 5).1 = some ⟨1⟩ := by decide +kernel
  have hback : ((repeatingWalker 0).previous ringWithRamp ⟨1⟩ 5).1 = some ⟨2⟩ := by decide +kernel
  exact ⟨hahead,
    (Walker.retraces ringWithRamp_validated rfl rfl ⟨2⟩ ⟨1⟩ 5).1 hahead (by decide +kernel), hback,
    (Walker.retraces ringWithRamp_validated rfl rfl ⟨1⟩ ⟨2⟩ 5).2 hback (by decide +kernel)⟩

end RoadTraffic
