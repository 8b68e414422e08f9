import RoadTraffic.Proofs.Route.Steps

/-!
# The passages of a walk

A passage is one step of a walk: from where, whether through a junction, and to where. A passage
that was made stays made, whatever the walker decides later (`Made.keeps`). A walker that stands by
what it decided at its source makes the passage again, and decides nothing (`tryNext_of_made`).
Turned round, it is a passage of the map with the direction of travel turned round.
-/

namespace RoadTraffic

/-- One step of a walk. -/
structure Passage where
  source : PointId
  /-- Whether the step goes through a junction and not along the lane. -/
  through : Bool
  target : PointId
  deriving DecidableEq

/-- The passage the other way. -/
def Passage.flip (s : Passage) : Passage := ⟨s.target, s.through, s.source⟩

namespace Walker

section

variable {α ρ : Type} [Scalar α] {m : RoadMap α} {w w' : Walker ρ}

/-- The map has the passage, and the walker has decided about the junctions at its ends. -/
inductive Made (m : RoadMap α) (w : Walker ρ) : Passage → Prop
  | through {p : PointId} (j : JunctionId) (hbranch : (m.point p).branch = some j)
    (htaken : w.decided j = some true) : Made m w ⟨p, true, (m.junction j).finish⟩
  | along {p q : PointId} (hnext : (m.point p).next = some q)
    (hbranch : ∀ j, (m.point p).branch = some j → (w.decided j).isSome)
    (hmerge : ∀ j, (m.point q).merge = some j → (w.decided j).isSome) : Made m w ⟨p, false, q⟩

/-- The walker still means to leave the source of the passage in the same way. -/
def Firm (m : RoadMap α) (w : Walker ρ) (s : Passage) : Prop :=
  ∀ j, (m.point s.source).branch = some j → w.decided j = some s.through

theorem Made.keeps {forced : JunctionId → Prop} {s : Passage} (h : Made m w s)
    (hkeeps : Keeps forced w w') : Made m w' s := by
  cases h with
  | through j hbranch htaken => exact .through j hbranch (hkeeps.taken htaken)
  | along hnext hbranch hmerge =>
    exact .along hnext (fun j hj => hkeeps.isSome (hbranch j hj))
      fun j hj => hkeeps.isSome (hmerge j hj)

/-- A passage through a junction leads to its end. -/
theorem Made.target_eq {s : Passage} (h : Made m w s) (hthrough : s.through = true)
    {j : JunctionId} (hbranch : (m.point s.source).branch = some j) :
    s.target = (m.junction j).finish := by
  cases h with
  | @through p k hk =>
    rw [show (m.point p).branch = some j from hbranch, Option.some.injEq] at hk
    rw [hk]
  | along => cases hthrough

/-- A passage along the lane leads to the next point. -/
theorem Made.next_eq {s : Passage} (h : Made m w s) (halong : s.through = false) :
    (m.point s.source).next = some s.target := by
  cases h with
  | through => cases halong
  | along hnext => exact hnext

/-- A passage through a junction comes from its start. -/
theorem Made.start_eq (hl : m.Linked) {s : Passage} (hmade : Made m w s)
    (hthrough : s.through = true) {j : JunctionId} (hj : (m.point s.target).merge = some j) :
    (m.junction j).start = s.source := by
  cases hmade with
  | through k hbranch hd =>
    obtain rfl : k = j := Option.some.inj ((hl.merge_of_branch hbranch).symm.trans hj)
    exact hl.start_of_branch hbranch
  | along => cases hthrough

theorem Firm.keeps {forced : JunctionId → Prop} {s : Passage} (h : Firm m w s)
    (hkeeps : Keeps forced w w')
    (hfree : s.through = false → ∀ j, (m.point s.source).branch = some j → ¬ forced j) :
    Firm m w' s := by
  intro j hj
  cases hthrough : s.through with
  | true => exact hkeeps.taken (hthrough ▸ h j hj)
  | false => exact hkeeps.passed (hthrough ▸ h j hj) (hfree hthrough j hj)

/-- A junction that was passed by is not the only way, and so nothing on the way ahead makes the
walker take it. -/
theorem Firm.keeps_ahead (hl : m.Linked) {s : Passage} (hmade : Made m w s) (h : Firm m w s)
    (hkeeps : Keeps m.LeavesEnd w w') : Firm m w' s := by
  refine h.keeps hkeeps fun hthrough j hj => ?_
  rintro ⟨p, hp, hend⟩
  cases hmade with
  | through => cases hthrough
  | along hnext =>
    rw [← hl.start_of_branch hp, hl.start_of_branch hj, hnext] at hend
    cases hend

theorem Made.flip (hl : m.Linked) {s : Passage} (h : Made m w s) : Made m.reverse w s.flip := by
  cases h with
  | @through p j hbranch htaken =>
    have hstart : (m.reverse.junction j).finish = p := by
      rw [RoadMap.junction_reverse]
      exact hl.start_of_branch hbranch
    have hmade : Made m.reverse w ⟨(m.junction j).finish, true, (m.reverse.junction j).finish⟩ :=
      .through j ((m.point_reverse _).symm ▸ hl.merge_of_branch hbranch) htaken
    rw [hstart] at hmade
    exact hmade
  | along hnext hbranch hmerge =>
    refine .along ?_ ?_ ?_ <;> rw [RoadMap.point_reverse]
    · exact hl.previous_of_next hnext
    · exact hmerge
    · exact hbranch

/-- The walker has come to the point by a passage, or the way begins there. -/
def Arrived (m : RoadMap α) (w : Walker ρ) (p : PointId) : Prop :=
  (∃ s, Made m w s ∧ s.target = p) ∨ (m.point p).merge = none ∧ (m.point p).previous = none

theorem Arrived.keeps {forced : JunctionId → Prop} {p : PointId} (h : Arrived m w p)
    (hkeeps : Keeps forced w w') : Arrived m w' p := by
  rcases h with ⟨s, hs, hp⟩ | hbegins
  · exact Or.inl ⟨s, hs.keeps hkeeps, hp⟩
  · exact Or.inr hbegins

end

variable {α ρ : Type} [Scalar α] [RandomSource ρ] {m : RoadMap α} {w w' : Walker ρ}

/-- After a step the passage is made and the walker stands by it. -/
theorem tryNext_made (hw : w.remembers = true) {p q : PointId}
    (h : w.tryNext m p = (some q, w')) :
    Made m w' ⟨p, w.branches m p, q⟩ ∧ Firm m w' ⟨p, w.branches m p, q⟩ := by
  have hstep := tryNext_step hw h
  generalize w.branches m p = leaves at hstep ⊢
  cases hstep with
  | through j hbranch hfree hdecides =>
    have htaken : w'.decided j = some true := by rw [hdecides.decided, if_pos rfl]
    refine ⟨.through j hbranch htaken, fun k hk => ?_⟩
    rw [hbranch, Option.some.injEq] at hk
    rw [← hk]
    exact htaken
  | @along between _ hnext hpassed hplain =>
    have hbetween : between.remembers = true := by
      cases hbranch : (m.point p).branch with
      | none => rw [hplain hbranch]; exact hw
      | some j => exact (hpassed j hbranch).2.remembers
    have hfirm : ∀ j, (m.point p).branch = some j →
        (between.inferPassed (m.point q).merge).decided j = some false := by
      intro j hj
      rw [decided_inferPassed hbetween, (hpassed j hj).2.decided, if_pos rfl]
      split <;> rfl
    refine ⟨.along hnext (fun j hj => ?_) (fun j hj => ?_), hfirm⟩
    · rw [hfirm j hj]
      rfl
    · rw [decided_inferPassed hbetween, if_pos hj]
      rfl

/-- A walker that stands by a passage makes it again and decides nothing. -/
theorem tryNext_of_made {s : Passage} (hmade : Made m w s) (hfirm : Firm m w s) :
    w.tryNext m s.source = (some s.target, w) ∧ w.branches m s.source = s.through := by
  cases hmade with
  | @through p j hbranch htaken =>
    have hchoose : w.choose m (m.point p).branch (fun j => (m.junction j).finish)
        (m.point p).next = (some (m.junction j).finish, true, w) := by
      simp only [choose, hbranch, takes_of_decided htaken, record_of_decided htaken, ite_self]
    simp only [tryNext, branches, hchoose, and_self]
  | @along p q hnext hbranch hmerge =>
    have hchoose : w.choose m (m.point p).branch (fun j => (m.junction j).finish)
        (m.point p).next = (some q, false, w) := by
      cases hj : (m.point p).branch with
      | none => simp only [choose, hnext]
      | some j =>
        simp only [choose, hnext, takes_of_decided (hfirm j hj), Option.isNone_some,
          Bool.false_eq_true, if_false]
    simp only [tryNext, branches, hchoose, inferPassed_of_decided hmerge, and_self]

/-- From the target of a passage a walker goes back through the junction that it means to take, if
there is one, and otherwise to the source. It decides nothing. -/
theorem tryPrevious_of_made (hl : m.Linked) {s : Passage} (hmade : Made m w s) :
    (w.tryPrevious m s.target = (some s.source, w) ∧
      ∀ j, (m.point s.target).merge = some j → w.decided j ≠ some true) ∨
    ∃ j, (m.point s.target).merge = some j ∧ w.decided j = some true ∧
      w.tryPrevious m s.target = (some (m.junction j).start, w) := by
  rw [tryPrevious_eq]
  by_cases htaken : ∃ j, (m.point s.target).merge = some j ∧ w.decided j = some true
  · obtain ⟨j, hj, hd⟩ := htaken
    have hthrough : Made m w ⟨(m.junction j).start, true, s.target⟩ := by
      rw [← hl.finish_of_merge hj]
      exact .through j (hl.branch_of_merge hj) hd
    refine Or.inr ⟨j, hj, hd, (tryNext_of_made (hthrough.flip hl) fun k hk => ?_).1⟩
    rw [RoadMap.point_reverse] at hk
    obtain rfl : j = k := Option.some.inj (hj.symm.trans hk)
    exact hd
  · have hpassed : ∀ j, (m.point s.target).merge = some j → w.decided j ≠ some true :=
      fun j hj hd => htaken ⟨j, hj, hd⟩
    refine Or.inl ⟨(tryNext_of_made (hmade.flip hl) fun j hj => ?_).1, hpassed⟩
    rw [RoadMap.point_reverse] at hj
    cases hmade with
    | through k hbranch hd =>
      exact absurd hd (hpassed k (hl.merge_of_branch hbranch))
    | along hnext hbranch hmerge =>
      have hd := hmerge j hj
      have hne := hpassed j hj
      show w.decided j = some false
      cases hdecided : w.decided j with
      | none => rw [hdecided] at hd; cases hd
      | some taken => cases taken <;> simp_all

/-- A walker goes back where it came from unless it means to take a junction from elsewhere. -/
theorem tryPrevious_eq_source (hl : m.Linked) {s : Passage} (hmade : Made m w s)
    (hfrom : ∀ j, (m.point s.target).merge = some j → w.decided j = some true →
      (m.junction j).start = s.source) :
    w.tryPrevious m s.target = (some s.source, w) := by
  rcases tryPrevious_of_made hl hmade with ⟨hback, -⟩ | ⟨j, hj, hd, hback⟩
  · exact hback
  · rw [hback, hfrom j hj hd]

/-- Where a walker has arrived there is nothing to decide about the way back. -/
theorem Arrived.quiet (hl : m.Linked) {p : PointId} (h : Arrived m w p) :
    (w.tryPrevious m p).2 = w := by
  rcases h with ⟨s, hs, rfl⟩ | ⟨hmerge, hprevious⟩
  · rcases tryPrevious_of_made hl hs with ⟨hback, -⟩ | ⟨j, -, -, hback⟩ <;> rw [hback]
  · simp only [tryPrevious, choose, hmerge, hprevious]

/-- Who has looked back knows how it got there. -/
theorem arrived_of_tryPrevious (hl : m.Linked) (hw : w.remembers = true) (p : PointId) :
    Arrived m (w.tryPrevious m p).2 p := by
  rw [tryPrevious_eq]
  rcases hback : w.tryNext m.reverse p with ⟨_ | q, w'⟩
  · have hstep := tryNext_step hw hback
    generalize w.branches m.reverse p = leaves at hstep
    cases hstep with
    | deadEnd hbranch hnext =>
      rw [RoadMap.point_reverse] at hbranch hnext
      exact Or.inr ⟨hbranch, hnext⟩
  · have hmade := (tryNext_made hw hback).1.flip hl.reverse
    rw [RoadMap.reverse_reverse] at hmade
    exact Or.inl ⟨_, hmade, rfl⟩

/-- A step that is repeated later leads to the same point, and decides nothing. -/
theorem tryNext_again (hl : m.Linked) (hw : w.remembers = true) {p : PointId}
    {target : Option PointId} (h : w.tryNext m p = (target, w')) {later : Walker ρ}
    (hkeeps : Keeps m.LeavesEnd w' later) : later.tryNext m p = (target, later) := by
  cases target with
  | none =>
    have hstep := tryNext_step hw h
    generalize w.branches m p = leaves at hstep
    cases hstep with
    | deadEnd hbranch hnext => simp only [tryNext, choose, hbranch, hnext]
  | some q =>
    obtain ⟨hmade, hfirm⟩ := tryNext_made hw h
    exact (tryNext_of_made (hmade.keeps hkeeps) (hfirm.keeps_ahead hl hmade hkeeps)).1

end Walker

end RoadTraffic
