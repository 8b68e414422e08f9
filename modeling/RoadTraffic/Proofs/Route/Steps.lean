import RoadTraffic.Proofs.Roads.Linked
import RoadTraffic.Route.Walker

/-!
# What one step of a walk does

A step of a walker that remembers ends in one of three ways (`tryNext_step`): there is no way on, it
goes through the junction of its point and keeps that the junction is taken, or it goes along the
lane and keeps that the junction of its point is not taken.

What is decided stays decided. A decision for a junction is never taken back, and one against a
junction is taken back only where the junction turns out to be the only way (`Keeps`). A step back
is a step ahead on the map with the direction of travel turned round.
-/

namespace RoadTraffic

namespace Decisions

theorem get?_insert (d : Decisions) (j k : JunctionId) (taken : Bool) :
    (d.insert j taken).get? k = if j = k then some taken else d.get? k := by
  induction d with
  | nil =>
    by_cases hjk : j = k
    · subst hjk
      simp [insert, get?]
    · have hkj : (k == j) = false := beq_eq_false_iff_ne.mpr (Ne.symm hjk)
      simp [insert, get?, List.lookup_cons, hkj, hjk]
  | cons e d ih =>
    obtain ⟨i, t⟩ := e
    simp only [get?] at ih ⊢
    unfold insert
    by_cases hij : i = j
    · subst hij
      by_cases hik : i = k
      · subst hik
        simp
      · have hki : (k == i) = false := beq_eq_false_iff_ne.mpr (Ne.symm hik)
        simp [List.lookup_cons, hki, hik]
    · rw [if_neg hij, List.lookup_cons, List.lookup_cons, ih]
      by_cases hki : k = i
      · subst hki
        simp [Ne.symm hij]
      · simp [beq_eq_false_iff_ne.mpr hki]

/-- Deciding what is decided changes nothing. -/
theorem insert_of_get? {d : Decisions} {j : JunctionId} {taken : Bool}
    (h : d.get? j = some taken) : d.insert j taken = d := by
  induction d with
  | nil => simp [get?] at h
  | cons e d ih =>
    obtain ⟨i, t⟩ := e
    unfold insert
    by_cases hij : i = j
    · subst hij
      simp only [get?, List.lookup_cons, beq_self_eq_true, Option.some.injEq] at h
      rw [if_pos rfl, h]
    · have hji : (j == i) = false := beq_eq_false_iff_ne.mpr (Ne.symm hij)
      simp only [get?, List.lookup_cons, hji] at h
      rw [if_neg hij, ih h]

theorem get?_infer (d : Decisions) (j k : JunctionId) (taken : Bool) :
    (d.infer j taken).get? k = if j = k then some ((d.get? j).getD taken) else d.get? k := by
  unfold infer
  by_cases hjk : j = k
  · subst hjk
    cases hj : d.get? j <;> simp [hj, get?_insert]
  · cases hj : d.get? j <;> simp [hjk, get?_insert]

end Decisions

namespace Walker

section

variable {ρ : Type} {w w' : Walker ρ}

/-- What the walker has decided about a junction. -/
def decided (w : Walker ρ) (j : JunctionId) : Option Bool := w.decisions.get? j

theorem decided_record (hw : w.remembers = true) (j k : JunctionId) (taken : Bool) :
    (w.record j taken).decided k = if j = k then some taken else w.decided k := by
  unfold record
  rw [if_pos hw]
  exact w.decisions.get?_insert j k taken

@[simp] theorem remembers_record (w : Walker ρ) (j : JunctionId) (taken : Bool) :
    (w.record j taken).remembers = w.remembers := by
  unfold record
  split <;> rfl

theorem record_of_decided {j : JunctionId} {taken : Bool} (h : w.decided j = some taken) :
    w.record j taken = w := by
  unfold record
  split
  · rw [Decisions.insert_of_get? h]
  · rfl

@[simp] theorem remembers_inferPassed (w : Walker ρ) (j : Option JunctionId) :
    (w.inferPassed j).remembers = w.remembers := by
  unfold inferPassed infer
  split
  · split <;> rfl
  · rfl

theorem decided_inferPassed (hw : w.remembers = true) (j : Option JunctionId) (k : JunctionId) :
    (w.inferPassed j).decided k =
      if j = some k then some ((w.decided k).getD false) else w.decided k := by
  unfold inferPassed infer
  cases j with
  | none => simp
  | some j =>
    simp only [hw, if_true, Option.some.injEq]
    refine (w.decisions.get?_infer j k false).trans ?_
    by_cases hjk : j = k
    · subst hjk
      rfl
    · rw [if_neg hjk, if_neg hjk]
      rfl

/-- Nobody infers that a junction is taken. -/
theorem decided_of_inferPassed (hw : w.remembers = true) {j : Option JunctionId} {k : JunctionId}
    (h : (w.inferPassed j).decided k = some true) : w.decided k = some true := by
  rw [decided_inferPassed hw] at h
  split at h
  · cases hk : w.decided k with
    | none => rw [hk] at h; cases h
    | some taken => rw [hk] at h; exact h
  · exact h

/-- Where everything is decided there is nothing to infer. -/
theorem inferPassed_of_decided {j : Option JunctionId}
    (h : ∀ k, j = some k → (w.decided k).isSome) : w.inferPassed j = w := by
  unfold inferPassed infer
  cases j with
  | none => rfl
  | some j =>
    have hj := h j rfl
    unfold decided at hj
    simp only [Decisions.infer, hj, if_true]
    split <;> rfl

/-- The walker has decided about one junction, and about others what it had decided before. -/
structure Decides (w : Walker ρ) (j : JunctionId) (taken : Bool) (w' : Walker ρ) : Prop where
  remembers : w'.remembers = true
  decided : ∀ k, w'.decided k = if j = k then some taken else w.decided k

theorem decides_record (hw : w.remembers = true) (j : JunctionId) (taken : Bool) :
    w.Decides j taken (w.record j taken) :=
  ⟨(remembers_record ..).trans hw, fun k => decided_record hw j k taken⟩

theorem Decides.record {j : JunctionId} {taken : Bool} (h : w.Decides j taken w') :
    w'.record j taken = w' :=
  record_of_decided (by rw [h.decided, if_pos rfl])

/-- What is decided stays decided, except that a forced junction may be taken after all. -/
structure Keeps (forced : JunctionId → Prop) (w w' : Walker ρ) : Prop where
  remembers : w.remembers = true → w'.remembers = true
  decided : ∀ j taken, w.decided j = some taken →
    w'.decided j = some taken ∨ forced j ∧ w'.decided j = some true

namespace Keeps

variable {forced : JunctionId → Prop}

theorem refl (w : Walker ρ) : Keeps forced w w := ⟨id, fun _ _ h => Or.inl h⟩

theorem trans {w'' : Walker ρ} (h : Keeps forced w w') (h' : Keeps forced w' w'') :
    Keeps forced w w'' := by
  refine ⟨fun hw => h'.remembers (h.remembers hw), fun j taken hj => ?_⟩
  rcases h.decided j taken hj with hj | ⟨hforced, hj⟩
  · exact h'.decided j taken hj
  · rcases h'.decided j true hj with hj | ⟨-, hj⟩
    · exact Or.inr ⟨hforced, hj⟩
    · exact Or.inr ⟨hforced, hj⟩

theorem taken (h : Keeps forced w w') {j : JunctionId} (hj : w.decided j = some true) :
    w'.decided j = some true := by
  rcases h.decided j true hj with hj | ⟨-, hj⟩ <;> exact hj

theorem isSome (h : Keeps forced w w') {j : JunctionId} (hj : (w.decided j).isSome) :
    (w'.decided j).isSome := by
  obtain ⟨taken, htaken⟩ := Option.isSome_iff_exists.mp hj
  rcases h.decided j taken htaken with hj | ⟨-, hj⟩ <;> simp [hj]

theorem passed (h : Keeps forced w w') {j : JunctionId} (hj : w.decided j = some false)
    (hfree : ¬ forced j) : w'.decided j = some false := by
  rcases h.decided j false hj with hj | ⟨hforced, -⟩
  · exact hj
  · exact absurd hforced hfree

end Keeps

theorem Decides.keeps {forced : JunctionId → Prop} {j : JunctionId} {taken : Bool}
    (h : w.Decides j taken w') (hbefore : w.decided j = some (!taken) → taken = true ∧ forced j) :
    Keeps forced w w' := by
  refine ⟨fun _ => h.remembers, fun k t hk => ?_⟩
  rw [h.decided]
  by_cases hjk : j = k
  · subst hjk
    rw [if_pos rfl]
    by_cases ht : t = taken
    · exact Or.inl (congrArg some ht.symm)
    · have hflip : t = !taken := by cases t <;> cases taken <;> simp_all
      obtain ⟨htaken, hforced⟩ := hbefore (hflip ▸ hk)
      exact Or.inr ⟨hforced, congrArg some htaken⟩
  · rw [if_neg hjk]
    exact Or.inl hk

theorem inferPassed_keeps {forced : JunctionId → Prop} (hw : w.remembers = true)
    (j : Option JunctionId) : Keeps forced w (w.inferPassed j) := by
  refine ⟨fun _ => (remembers_inferPassed ..).trans hw, fun k taken hk => Or.inl ?_⟩
  rw [decided_inferPassed hw, hk]
  split <;> rfl

variable {α : Type} [Scalar α] {m : RoadMap α}

/-- What one step ahead from a point can do: where it leads, whether through a junction, and what
the walker has decided then. -/
inductive Step (m : RoadMap α) (p : PointId) (w : Walker ρ) :
    Option PointId → Bool → Walker ρ → Prop
  | deadEnd (hbranch : (m.point p).branch = none) (hnext : (m.point p).next = none) :
    Step m p w none false w
  | through {w' : Walker ρ} (j : JunctionId) (hbranch : (m.point p).branch = some j)
    (hfree : (m.point p).next = none ∨ w.decided j ≠ some false) (hdecides : w.Decides j true w') :
    Step m p w (some (m.junction j).finish) true w'
  | along {between : Walker ρ} (q : PointId) (hnext : (m.point p).next = some q)
    (hpassed : ∀ j, (m.point p).branch = some j →
      w.decided j ≠ some true ∧ w.Decides j false between)
    (hplain : (m.point p).branch = none → between = w) :
    Step m p w (some q) false (between.inferPassed (m.point q).merge)

/-- A step ahead keeps what is decided, except that a junction at the end of a lane has to be
taken. -/
theorem Step.keeps {forced : JunctionId → Prop} {p : PointId} {target : Option PointId}
    {leaves : Bool} (hw : w.remembers = true) (h : Step m p w target leaves w')
    (hforced : ∀ j, (m.point p).branch = some j → (m.point p).next = none →
      w.decided j = some true ∨ forced j) :
    Keeps forced w w' := by
  cases h with
  | deadEnd => exact .refl w
  | through j hbranch hfree hdecides =>
    refine hdecides.keeps fun hj => ⟨rfl, ?_⟩
    rcases hfree with hnext | hne
    · rcases hforced j hbranch hnext with htaken | hforced
      · rw [hj] at htaken
        cases htaken
      · exact hforced
    · exact absurd hj hne
  | @along between q hnext hpassed hplain =>
    have hbetween : Keeps forced w between := by
      cases hbranch : (m.point p).branch with
      | none => rw [hplain hbranch]; exact .refl w
      | some j =>
        obtain ⟨hne, hdecides⟩ := hpassed j hbranch
        exact hdecides.keeps fun hj => absurd hj hne
    exact hbetween.trans (inferPassed_keeps (hbetween.remembers hw) _)

/-- A step decides to take no junction but the one that it goes through. -/
theorem Step.taken {p : PointId} {target : Option PointId} {leaves : Bool}
    (hw : w.remembers = true) (h : Step m p w target leaves w') {j : JunctionId}
    (hj : w'.decided j = some true) :
    w.decided j = some true ∨ leaves = true ∧ (m.point p).branch = some j := by
  cases h with
  | deadEnd => exact Or.inl hj
  | through k hbranch hfree hdecides =>
    rw [hdecides.decided] at hj
    by_cases hkj : k = j
    · exact Or.inr ⟨rfl, hkj ▸ hbranch⟩
    · rw [if_neg hkj] at hj
      exact Or.inl hj
  | @along between q hnext hpassed hplain =>
    left
    cases hbranch : (m.point p).branch with
    | none =>
      rw [hplain hbranch] at hj
      exact decided_of_inferPassed hw hj
    | some k =>
      obtain ⟨-, hdecides⟩ := hpassed k hbranch
      have hbefore := decided_of_inferPassed hdecides.remembers hj
      rw [hdecides.decided] at hbefore
      split at hbefore
      · cases hbefore
      · exact hbefore

end

variable {α ρ : Type} [Scalar α] [RandomSource ρ] {m : RoadMap α} {w w' : Walker ρ}

theorem takes_of_decided {j : JunctionId} {taken : Bool} (h : w.decided j = some taken) :
    w.takes m j = (taken, w) := by
  unfold decided at h
  unfold takes
  rw [h]

/-- Who is asked about a junction decides about it, unless it has before. -/
theorem takes_cases (hw : w.remembers = true) {j : JunctionId} {taken : Bool}
    (h : w.takes m j = (taken, w')) :
    w.Decides j taken w' ∧ w.decided j ≠ some !taken := by
  unfold takes at h
  split at h
  · next t ht =>
    cases h
    refine ⟨⟨hw, fun k => ?_⟩, ?_⟩
    · split
      · next hjk => rw [← hjk]; exact ht
      · rfl
    · unfold decided
      rw [ht]
      cases taken <;> simp
  · next hnone =>
    rcases hdraw : RandomSource.happens (Scalar.clampTo 0 1 (m.junction j).probability) w.random
      with ⟨t, random⟩
    simp only [hdraw] at h
    cases h
    have hdecides := decides_record (w := { w with random }) hw j taken
    refine ⟨⟨hdecides.remembers, hdecides.decided⟩, ?_⟩
    unfold decided
    rw [hnone]
    simp

/-- Whether the walker leaves its lane through a junction with its next step. -/
def branches (m : RoadMap α) (p : PointId) (w : Walker ρ) : Bool :=
  (w.choose m (m.point p).branch (fun j => (m.junction j).finish) (m.point p).next).2.1

theorem tryNext_step (hw : w.remembers = true) {p : PointId} {target : Option PointId}
    (h : w.tryNext m p = (target, w')) : Step m p w target (w.branches m p) w' := by
  unfold tryNext at h
  unfold branches
  cases hbranch : (m.point p).branch with
  | none =>
    simp only [choose, hbranch] at h ⊢
    cases hnext : (m.point p).next with
    | none =>
      simp only [hnext] at h
      cases h
      exact .deadEnd hbranch hnext
    | some q =>
      simp only [hnext] at h
      cases h
      exact .along q hnext (fun j hj => by rw [hbranch] at hj; cases hj) (fun _ => rfl)
  | some j =>
    cases hnext : (m.point p).next with
    | none =>
      simp only [choose, hbranch, hnext, Option.isNone_none, if_true] at h ⊢
      cases h
      exact .through j hbranch (Or.inl hnext) (decides_record hw j true)
    | some q =>
      simp only [choose, hbranch, hnext, Option.isNone_some, Bool.false_eq_true, if_false] at h ⊢
      rcases htakes : w.takes m j with ⟨taken, between⟩
      obtain ⟨hdecides, hbefore⟩ := takes_cases hw htakes
      cases taken with
      | true =>
        simp only [htakes, hdecides.record] at h ⊢
        cases h
        exact .through j hbranch (Or.inr hbefore) hdecides
      | false =>
        simp only [htakes] at h ⊢
        cases h
        refine .along q hnext (fun k hk => ?_) (fun hnone => by rw [hbranch] at hnone; cases hnone)
        rw [hbranch, Option.some.injEq] at hk
        rw [← hk]
        exact ⟨hbefore, hdecides⟩

theorem decided_takes (m : RoadMap α) (hw : w.remembers = true) (j : JunctionId) :
    (w.takes m j).2.decided j = some (w.takes m j).1 := by
  rcases h : w.takes m j with ⟨taken, w'⟩
  rw [(takes_cases hw h).1.decided, if_pos rfl]

theorem takes_keeps {forced : JunctionId → Prop} (m : RoadMap α) (hw : w.remembers = true)
    (j : JunctionId) : Keeps forced w (w.takes m j).2 := by
  obtain ⟨hdecides, hbefore⟩ := takes_cases (m := m) (j := j) hw rfl
  exact hdecides.keeps fun h => absurd h hbefore

end Walker

/-- The junction is the only way on from where it starts. -/
def RoadMap.LeavesEnd {α : Type} [Scalar α] (m : RoadMap α) (j : JunctionId) : Prop :=
  ∃ p, (m.point p).branch = some j ∧ (m.point p).next = none

namespace Walker

variable {α ρ : Type} [Scalar α] [RandomSource ρ] {m : RoadMap α} {w w' : Walker ρ}

theorem tryNext_keeps (hw : w.remembers = true) (p : PointId) :
    Keeps m.LeavesEnd w (w.tryNext m p).2 :=
  (tryNext_step hw rfl).keeps hw fun _ hbranch hnext => Or.inr ⟨p, hbranch, hnext⟩

/-- To look at the map from the other end is to draw the same decisions. -/
theorem takes_reverse (j : JunctionId) (w : Walker ρ) : w.takes m.reverse j = w.takes m j := by
  unfold takes
  rw [RoadMap.junction_reverse]
  rfl

theorem choose_reverse (j : Option JunctionId) (through : JunctionId → PointId)
    (along : Option PointId) (w : Walker ρ) :
    w.choose m.reverse j through along = w.choose m j through along := by
  unfold choose
  simp only [takes_reverse]

/-- To step back is to step ahead the other way round. -/
theorem tryPrevious_eq :
    (tryPrevious m : PointId → Walker ρ → Option PointId × Walker ρ) = tryNext m.reverse := by
  funext p w
  unfold tryPrevious tryNext
  simp only [choose_reverse, RoadMap.point_reverse, RoadMap.junction_reverse]
  rfl

theorem remembers_tryPrevious (m : RoadMap α) (hw : w.remembers = true) (p : PointId) :
    (w.tryPrevious m p).2.remembers = true := by
  rw [tryPrevious_eq]
  exact (tryNext_keeps (m := m.reverse) hw p).remembers hw

end Walker

end RoadTraffic
