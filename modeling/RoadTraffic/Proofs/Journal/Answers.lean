import Mathlib.Data.List.Forall2
import RoadTraffic.Journal.Basic

/-!
# What a computation answers

`Answers x b` says that the computation `x` ends, without a fault, in `b`. Which notices a logged
computation finds in the journal and which it leaves there is nobody's business here. A computation
is peeled apart from its front: `answers_bind` splits off its first step, and a lemma for each kind
of step says what that step answered. What every step of a list of computations keeps, the whole
list keeps (`answers_mapM`, `answers_foldlM`).

The two kinds of computation, with a journal and without one, share these lemmas. A check is a
computation that answers nothing; who passes it passes each of its refusals and demands. Of some
logged computations it is known beforehand that they meet no fault and do not read the journal
(`Faultless`).
-/

namespace RoadTraffic

/-- A kind of computation, by what its computations end in. -/
class Answering (m : Type → Type) [Monad m] where
  /-- The computation ends in the value. -/
  Answers : {β : Type} → m β → β → Prop
  of_pure : {β : Type} → {b c : β} → Answers (pure b) c → c = b
  of_bind : {β γ : Type} → {x : m β} → {f : β → m γ} → {c : γ} → Answers (x >>= f) c →
    ∃ b, Answers x b ∧ Answers (f b) c

export Answering (Answers)

instance : Answering (Except Fault) where
  Answers x b := x = .ok b
  of_pure h := (Except.ok.inj h).symm
  of_bind {_ _ x f c} h := by
    cases x with
    | error fault => cases h
    | ok b => exact ⟨b, rfl, h⟩

instance {α : Type} : Answering (ExceptT Fault (StateM (Journal α))) where
  Answers x b := ∃ before after : Journal α, x before = (.ok b, after)
  of_pure h := by
    obtain ⟨before, after, h⟩ := h
    cases h
    rfl
  of_bind {_ _ x f c} h := by
    obtain ⟨before, after, h⟩ := h
    rcases hx : x before with ⟨r, between⟩
    -- the first step alone says what the second one begins with
    have hstep : (x >>= f) before = ExceptT.bindCont f r between := by
      show ExceptT.bindCont f (x before).1 (x before).2 = _
      rw [hx]
    rw [hstep] at h
    cases r with
    | error fault => cases h
    | ok b => exact ⟨b, ⟨before, between, hx⟩, ⟨between, after, h⟩⟩

/-- Of two related lists, each element of the second one is related to one of the first. -/
theorem exists_of_forall₂ {β γ : Type} {R : β → γ → Prop} {l : List β} {l' : List γ}
    (h : List.Forall₂ R l l') {c : γ} (hc : c ∈ l') : ∃ b ∈ l, R b c := by
  obtain ⟨i, hi, rfl⟩ := List.mem_iff_getElem.mp hc
  have hlength := h.length_eq
  exact ⟨_, List.get_mem .., h.get (by omega) hi⟩

section

variable {m : Type → Type} [Monad m] [Answering m] {β γ : Type}

theorem answers_pure {b c : β} (h : Answers (pure b : m β) c) : c = b := Answering.of_pure h

/-- What a computation of two steps answers, its second step answers to what the first one did. -/
theorem answers_bind {x : m β} {f : β → m γ} {c : γ} (h : Answers (x >>= f) c) :
    ∃ b, Answers x b ∧ Answers (f b) c :=
  Answering.of_bind h

theorem answers_map [LawfulMonad m] {f : β → γ} {x : m β} {c : γ} (h : Answers (f <$> x) c) :
    ∃ b, Answers x b ∧ c = f b := by
  rw [map_eq_pure_bind] at h
  obtain ⟨b, hb, hc⟩ := answers_bind h
  exact ⟨b, hb, answers_pure hc⟩

/-- What is answered for a list is, element by element, what is answered for the elements. -/
theorem answers_mapM [LawfulMonad m] {f : β → m γ} {l : List β} {l' : List γ}
    (h : Answers (l.mapM f) l') : List.Forall₂ (fun b c => Answers (f b) c) l l' := by
  induction l generalizing l' with
  | nil =>
    rw [List.mapM_nil] at h
    rw [answers_pure h]
    exact List.Forall₂.nil
  | cons b l ih =>
    rw [List.mapM_cons] at h
    obtain ⟨c, hc, h⟩ := answers_bind h
    obtain ⟨rest, hrest, h⟩ := answers_bind h
    rw [answers_pure h]
    exact List.Forall₂.cons hc (ih hrest)

/-- What every step of a fold keeps, the fold keeps. -/
theorem answers_foldlM [LawfulMonad m] {P : γ → Prop} {f : γ → β → m γ} {l : List β}
    (hstep : ∀ b ∈ l, ∀ c c', P c → Answers (f c b) c' → P c') {c c' : γ} (hc : P c)
    (h : Answers (l.foldlM f c) c') : P c' := by
  induction l generalizing c with
  | nil =>
    rw [List.foldlM_nil] at h
    rw [answers_pure h]
    exact hc
  | cons b l ih =>
    rw [List.foldlM_cons] at h
    obtain ⟨d, hd, h⟩ := answers_bind h
    have hdone := hstep b (List.mem_cons_self ..) c d hc hd
    exact ih (fun b hb => hstep b (List.mem_cons_of_mem _ hb)) hdone h

end

/-- A step without a fault hands its answer on. -/
theorem ok_bind {β γ : Type} (b : β) (f : β → Except Fault γ) : (Except.ok b >>= f) = f b := rfl

/-- Behind a fault nothing is done. -/
theorem error_bind {β γ : Type} (fault : Fault) (f : β → Except Fault γ) :
    (Except.error fault >>= f) = .error fault := rfl

/-- Who passes a check and what follows it passes both. -/
theorem of_step {ε β : Type} {x : Except ε β} {k : β → Except ε Unit}
    (h : (x >>= k) = .ok ()) : ∃ b, x = .ok b ∧ k b = .ok () := by
  cases x with
  | error e => cases h
  | ok b => exact ⟨b, rfl, h⟩

/-- Who passes a refusal does not have what is refused. -/
theorem of_refusal {ε : Type} {c : Prop} [Decidable c] {e : ε} {k : Unit → Except ε Unit}
    (h : (if c then throw e >>= k else k ()) = .ok ()) : ¬ c ∧ k () = .ok () := by
  split at h
  · cases h
  · next hc => exact ⟨hc, h⟩

/-- Who passes a demand has what is demanded. -/
theorem of_demand {ε : Type} {c : Prop} [Decidable c] {e : ε} {k : Unit → Except ε Unit}
    (h : (if c then k () else throw e >>= k) = .ok ()) : c ∧ k () = .ok () := by
  split at h
  · next hc => exact ⟨hc, h⟩
  · cases h

/-- What passes a list of checks passes each of them. -/
theorem forM_ok {ε β : Type} {check : β → Except ε Unit} {l : List β}
    (h : l.forM check = .ok ()) : ∀ b ∈ l, check b = .ok () := by
  induction l with
  | nil => simp
  | cons b l ih =>
    obtain ⟨⟨⟩, hb, h⟩ := of_step (k := fun _ => l.forM check) h
    intro c hc
    rcases List.mem_cons.mp hc with rfl | hc
    · exact hb
    · exact ih h c hc

variable {α β : Type}

/-- A computation without a journal answers the same among those with one. -/
theorem answers_lift {x : Except Fault β} {b : β} (h : Answers (liftM x : Logged α β) b) :
    Answers x b := by
  obtain ⟨before, after, h⟩ := h
  cases x with
  | error fault => cases h
  | ok c => cases h; rfl

theorem answers_of_lift {x : Except Fault β} {b : β} (h : Answers x b) :
    Answers (liftM x : Logged α β) b := by
  cases x with
  | error fault => cases h
  | ok c =>
    cases h
    exact ⟨#[], #[], rfl⟩

theorem answers_of_pure (b : β) : Answers (pure b : Logged α β) b := ⟨#[], #[], rfl⟩

/-- What is made of an answer is answered. -/
theorem answers_map_of {γ : Type} {x : Logged α β} {b : β} (h : Answers x b) (f : β → γ) :
    Answers (f <$> x) (f b) := by
  obtain ⟨before, after, h⟩ := h
  refine ⟨before, after, ?_⟩
  have hstep : ∀ g : β → Logged α γ,
      (x >>= g) before = ExceptT.bindCont g (x before).1 (x before).2 := fun g => rfl
  rw [map_eq_pure_bind, hstep, h]
  rfl

/-! ## Computations that meet no fault -/

/-- The computation answers, and the same whatever the journal holds. -/
def Faultless (x : Logged α β) : Prop := ∃ b, ∀ before, ∃ after, x before = (.ok b, after)

theorem Faultless.answers {x : Logged α β} (h : Faultless x) : ∃ b, Answers x b := by
  obtain ⟨b, h⟩ := h
  obtain ⟨after, h⟩ := h #[]
  exact ⟨b, #[], after, h⟩

theorem Faultless.unique {x : Logged α β} (h : Faultless x) {b c : β} (hb : Answers x b)
    (hc : Answers x c) : b = c := by
  obtain ⟨d, h⟩ := h
  have hd : ∀ {e : β}, Answers x e → e = d := by
    rintro e ⟨before, after, he⟩
    obtain ⟨after', hd⟩ := h before
    rw [he] at hd
    exact Except.ok.inj (Prod.mk.inj hd).1
  rw [hd hb, hd hc]

theorem faultless_pure (b : β) : Faultless (pure b : Logged α β) :=
  ⟨b, fun before => ⟨before, rfl⟩⟩

theorem faultless_note (notice : Notice α) : Faultless (note notice) :=
  ⟨(), fun before => ⟨before.push notice, rfl⟩⟩

theorem Faultless.bind {γ : Type} {x : Logged α β} {f : β → Logged α γ} (hx : Faultless x)
    (hf : ∀ b, Faultless (f b)) : Faultless (x >>= f) := by
  obtain ⟨b, hb⟩ := hx
  obtain ⟨c, hc⟩ := hf b
  refine ⟨c, fun before => ?_⟩
  obtain ⟨between, hb⟩ := hb before
  obtain ⟨after, hc⟩ := hc between
  have hstep : (x >>= f) before = ExceptT.bindCont f (x before).1 (x before).2 := rfl
  rw [hb] at hstep
  exact ⟨after, hstep.trans hc⟩

theorem faultless_foldlM {γ : Type} {f : γ → β → Logged α γ} (hf : ∀ c b, Faultless (f c b))
    (l : List β) (c : γ) : Faultless (l.foldlM f c) := by
  induction l generalizing c with
  | nil => exact faultless_pure c
  | cons b l ih =>
    rw [List.foldlM_cons]
    exact (hf c b).bind ih

theorem Faultless.map {γ : Type} {x : Logged α β} (hx : Faultless x) (f : β → γ) :
    Faultless (f <$> x) := by
  rw [map_eq_pure_bind]
  exact hx.bind fun _ => faultless_pure _

theorem faultless_mapM {γ : Type} {f : β → Logged α γ} (hf : ∀ b, Faultless (f b)) (l : List β) :
    Faultless (l.mapM f) := by
  induction l with
  | nil =>
    rw [List.mapM_nil]
    exact faultless_pure _
  | cons b l ih =>
    rw [List.mapM_cons]
    exact (hf b).bind fun _ => ih.bind fun _ => faultless_pure _

theorem faultless_forM {f : β → Logged α Unit} (hf : ∀ b, Faultless (f b)) (l : List β) :
    Faultless (l.forM f) := by
  induction l with
  | nil => exact faultless_pure ()
  | cons b l ih => exact (hf b).bind fun _ => ih

/-! ## What is answered by running -/

/-- What a logged computation answers if it meets no fault on an empty journal. -/
def answerOf (x : Logged α β) (h : (x #[]).1.isOk = true) : β :=
  match (x #[]).1, h with
  | .ok b, _ => b

/-- To see what a logged computation answers, run it. -/
theorem answers_answerOf {x : Logged α β} (h : (x #[]).1.isOk = true) :
    Answers x (answerOf x h) := by
  refine ⟨#[], (x #[]).2, ?_⟩
  unfold answerOf
  split
  next b _ hb _ => exact Prod.ext hb rfl

/-- What is known of the first part of an answer stands in its place. -/
theorem answers_of_fst {γ : Type} {x : Logged α (β × γ)} {h : (x #[]).1.isOk = true} {b : β}
    (hb : (answerOf x h).1 = b) : Answers x (b, (answerOf x h).2) := by
  rw [← hb]
  exact answers_answerOf h

end RoadTraffic
