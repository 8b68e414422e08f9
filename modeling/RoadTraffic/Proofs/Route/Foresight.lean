import RoadTraffic.Proofs.Route.Retrace

/-!
# The road that was looked at

A walker that remembers is asked about the way ahead again and again, from many points: by the
vehicle that drives, and by the one that looks where it will drive. Each answer keeps what was
decided before, except that a junction at the end of a lane has to be taken (`asked_keeps`). No such
junction was ever passed by, and so a walk that was looked at is driven as it was seen, passage by
passage, whatever was asked in between, and nothing more is decided or drawn for it (`next_again`).
-/

namespace RoadTraffic

namespace Walker

variable {α ρ : Type} [Scalar α] [RandomSource ρ] {m : RoadMap α} {w w' later : Walker ρ}

/-- A question about the way ahead. -/
inductive Inquiry where
  | takes (j : JunctionId)
  | tryNext (p : PointId)
  | next (p : PointId) (n : Nat)
  | traverse (p : PointId) (steps : Nat)

/-- The walker that has answered a question. -/
def ask (m : RoadMap α) (w : Walker ρ) : Inquiry → Walker ρ
  | .takes j => (w.takes m j).2
  | .tryNext p => (w.tryNext m p).2
  | .next p n => (w.next m p n).2
  | .traverse p steps => (w.traverse m p steps).2

/-- The walker that has answered questions one after the other. -/
def asked (m : RoadMap α) (inquiries : List Inquiry) (w : Walker ρ) : Walker ρ :=
  inquiries.foldl (ask m) w

theorem next_keeps (hw : w.remembers = true) (p : PointId) (n : Nat) :
    Keeps m.LeavesEnd w (w.next m p n).2 := by
  induction n generalizing p w with
  | zero => exact .refl w
  | succ n ih =>
    have hfirst := tryNext_keeps (m := m) hw p
    rcases hstep : w.tryNext m p with ⟨_ | q, between⟩
    · rw [hstep] at hfirst
      rw [next, repeatStep, hstep]
      exact hfirst
    · rw [hstep] at hfirst
      rw [next_succ hstep]
      exact hfirst.trans (ih (hfirst.remembers hw) q)

/-- To traverse ahead is to walk ahead. -/
theorem traverse_ahead (p : PointId) (steps : Nat) (w : Walker ρ) :
    w.traverse m p steps = w.next m p steps := by
  unfold traverse
  rw [if_pos (Int.natCast_nonneg steps), Int.natAbs_natCast]

theorem ask_keeps (hw : w.remembers = true) (inquiry : Inquiry) :
    Keeps m.LeavesEnd w (w.ask m inquiry) := by
  cases inquiry with
  | takes j => exact takes_keeps m hw j
  | tryNext p => exact tryNext_keeps hw p
  | next p n => exact next_keeps hw p n
  | traverse p steps =>
    show Keeps m.LeavesEnd w (w.traverse m p steps).2
    rw [traverse_ahead]
    exact next_keeps hw p steps

theorem asked_keeps (hw : w.remembers = true) (inquiries : List Inquiry) :
    Keeps m.LeavesEnd w (w.asked m inquiries) := by
  induction inquiries generalizing w with
  | nil => exact .refl w
  | cons inquiry rest ih =>
    have hfirst := ask_keeps (m := m) hw inquiry
    exact hfirst.trans (ih (hfirst.remembers hw))

/-- A step that leads on is made again in the same way, and decides nothing. -/
theorem tryNext_branches_again (hl : m.Linked) (hw : w.remembers = true) {p q : PointId}
    (h : w.tryNext m p = (some q, w')) (hkeeps : Keeps m.LeavesEnd w' later) :
    later.tryNext m p = (some q, later) ∧ later.branches m p = w.branches m p := by
  obtain ⟨hmade, hfirm⟩ := tryNext_made hw h
  exact tryNext_of_made (hmade.keeps hkeeps) (hfirm.keeps_ahead hl hmade hkeeps)

/-- Whoever stands by what a walk decided makes the walk again, and decides nothing. -/
theorem next_of_keeps (hl : m.Linked) (hw : w.remembers = true) {p : PointId} {n : Nat}
    (hkeeps : Keeps m.LeavesEnd (w.next m p n).2 later) :
    later.ahead m n p = w.ahead m n p ∧
      ∀ k ≤ n, later.next m p k = ((w.next m p k).1, later) := by
  induction n generalizing p w with
  | zero =>
    refine ⟨rfl, fun k hk => ?_⟩
    obtain rfl := Nat.le_zero.mp hk
    rfl
  | succ n ih =>
    have hfirst := tryNext_keeps (m := m) hw p
    rcases hstep : w.tryNext m p with ⟨_ | q, between⟩
    · -- at a dead end there is nothing to decide
      have hend : (w.next m p (n + 1)).2 = between := by rw [next, repeatStep, hstep]
      rw [hend] at hkeeps
      have hagain := tryNext_again hl hw hstep hkeeps
      refine ⟨by rw [ahead, ahead, trail, trail, hagain, hstep], fun k hk => ?_⟩
      cases k with
      | zero => rfl
      | succ k => rw [next, next, repeatStep, repeatStep, hagain, hstep]
    · rw [hstep] at hfirst
      rw [next_succ hstep] at hkeeps
      have hbetween := hfirst.remembers hw
      obtain ⟨hagain, hsame⟩ :=
        tryNext_branches_again hl hw hstep ((next_keeps hbetween q n).trans hkeeps)
      obtain ⟨hrest, hpoints⟩ := ih hbetween hkeeps
      refine ⟨by rw [ahead_succ hagain, ahead_succ hstep, hsame, hrest], fun k hk => ?_⟩
      cases k with
      | zero => rfl
      | succ k =>
        rw [next_succ hagain, next_succ hstep]
        exact hpoints k (Nat.le_of_succ_le_succ hk)

/-- **The road looked at is the road driven.** A walker that remembers, whatever it has decided, has
looked some steps ahead from a point, and is then asked any questions about the way ahead. If it
walks from the point now, it makes the same passages. After each number of steps it is where it was
when it looked, or nowhere as it was then, and it has decided nothing more and drawn nothing. -/
theorem next_again (hm : m.Validated) (hw : w.remembers = true) (p : PointId) (n : Nat)
    (inquiries : List Inquiry) :
    ((w.next m p n).2.asked m inquiries).ahead m n p = w.ahead m n p ∧
      ∀ k ≤ n, ((w.next m p n).2.asked m inquiries).next m p k =
        ((w.next m p k).1, (w.next m p n).2.asked m inquiries) := by
  have hlooked := (next_keeps (m := m) hw p n).remembers hw
  exact next_of_keeps hm.linked hw (asked_keeps hlooked inquiries)

end Walker

/-- To drive through the ring after one has looked. -/
private def overTheRamp : List Walker.Inquiry :=
  [.tryNext ⟨6⟩, .takes ⟨0⟩, .next ⟨5⟩ 6, .traverse ⟨2⟩ 9]

/-- Having looked along the ring, one means not to take the junction from the ramp; having come from
the ramp, one has taken it after all; and still the way along the ring is the same. -/
theorem next_again_on_ring :
    let looked := (repeatingWalker 0).next ringWithRamp ⟨0⟩ 3
    looked.1 = some ⟨3⟩ ∧
      looked.2.decided ⟨1⟩ = some false ∧
      (looked.2.asked ringWithRamp overTheRamp).decided ⟨1⟩ = some true ∧
      (looked.2.asked ringWithRamp overTheRamp).next ringWithRamp ⟨0⟩ 3 =
        (some ⟨3⟩, looked.2.asked ringWithRamp overTheRamp) := by
  intro looked
  have hlooked : looked.1 = some ⟨3⟩ := by decide +kernel
  have hagain := (Walker.next_again ringWithRamp_validated
    (show (repeatingWalker 0).remembers = true from rfl) ⟨0⟩ 3 overTheRamp).2 3 (Nat.le_refl 3)
  refine ⟨hlooked, by decide +kernel, by decide +kernel, hagain.trans ?_⟩
  rw [show ((repeatingWalker 0).next ringWithRamp ⟨0⟩ 3).1 = some ⟨3⟩ from hlooked]

end RoadTraffic
