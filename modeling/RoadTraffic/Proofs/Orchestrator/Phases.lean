import RoadTraffic.Orchestrator.Spawn
import RoadTraffic.Proofs.Journal.Answers
import RoadTraffic.Proofs.World.Persists

/-!
# The phases of a tick

A tick handles the events that have come in, distributes vehicles if that is due, and lets vehicles
appear. The lemmas here say, once for all, what the first two phases can do to a session: which slot
an event changes and how (`handle_cases`), and when targets are given anew (`distributeIfDue_cases`,
`distributeVehicles_cases`). The third phase has a module of its own.
-/

namespace RoadTraffic

namespace Session

variable {α ρ : Type} [Scalar α] [RandomSource ρ] {s s' : Session α ρ} {now : Millis}

/-- What a tick does before it lets vehicles appear, and what it does then. -/
theorem tick_cases {outcome : Except DeadEnd Nat} (h : Answers (s.tick now) (outcome, s')) :
    ∃ s₁ s₂, Answers s.handleEvents s₁ ∧ Answers (s₁.distributeIfDue now) s₂ ∧
      Answers (s₂.spawn now) (outcome, s') := by
  obtain ⟨s₁, h₁, h⟩ := answers_bind h
  obtain ⟨s₂, h₂, h⟩ := answers_bind h
  exact ⟨s₁, s₂, h₁, h₂, h⟩

/-! ## Events -/

omit [RandomSource ρ] in
/-- Who drives a slot changes if its mode admits it, and apart from that only where its vehicles
are. -/
theorem setControl_cases {slot slot' : Slot α ρ} {byTraffic admitted : Bool}
    (h : Answers (slot.setControl byTraffic) (admitted, slot')) :
    (admitted = false ∧ slot' = slot) ∨
      (admitted = true ∧ Slot.Persists { slot with byTraffic } slot') := by
  unfold Slot.setControl at h
  split at h
  · cases answers_pure h
    exact Or.inl ⟨rfl, rfl⟩
  · split at h
    · next hsame =>
      cases answers_pure h
      exact Or.inr ⟨rfl, rfl, rfl, rfl, eq_of_beq hsame, rfl, rfl, fun hu => hu⟩
    · obtain ⟨-, -, h⟩ := answers_bind h
      cases answers_pure h
      refine Or.inr ⟨rfl, ?_⟩
      split
      · exact .refl
      · exact Slot.removeFromRoad_persists

omit [RandomSource ρ] in
/-- An event about a slot that there is not changes nothing. -/
theorem handle_unknown {event : SlotEvent α} (hslot : s.world.slot? event.slot = none)
    (h : Answers (s.handle event) s') : s' = s := by
  unfold handle World.demandSlot at h
  rw [hslot] at h
  obtain ⟨-, -, h⟩ := answers_bind h
  exact answers_pure h

omit [RandomSource ρ] in
/-- An event changes nothing, or it changes who drives a slot and makes the distribution stale, or
it is a report of a player. -/
theorem handle_cases {event : SlotEvent α} (h : Answers (s.handle event) s') :
    (s.world.slot? event.slot = none ∧ s' = s) ∨
    (∃ key, event = .connected key ∧ s' = s) ∨
    (∃ slot slot', s.world.slot? event.slot = some slot ∧ slot'.key = slot.key ∧
      (slot.Uniform → slot'.Uniform) ∧ s' = { s with world := s.world.store slot' }.markStale) ∨
    (∃ key status time slot, event = .moved key status time ∧ s.world.slot? key = some slot ∧
      s' = { s with world := s.world.store (slot.hearPlayer status time) }) := by
  cases hslot : s.world.slot? event.slot with
  | none => exact Or.inl ⟨rfl, handle_unknown hslot h⟩
  | some slot =>
    unfold handle World.demandSlot at h
    rw [hslot] at h
    right
    cases event with
    | connected key =>
      obtain ⟨⟨admitted, taken⟩, htaken, h⟩ := answers_bind h
      -- a slot that is reserved for the traffic takes no player
      rcases setControl_cases htaken with ⟨rfl, -⟩ | ⟨rfl, hpersists⟩
      · obtain ⟨-, -, h⟩ := answers_bind h
        exact Or.inl ⟨key, rfl, answers_pure h⟩
      · exact Or.inr (Or.inl ⟨slot, { taken with player := some .silent }, rfl, hpersists.key,
          hpersists.uniform, answers_pure h⟩)
    | disconnected key =>
      right; left
      unfold handleFor at h
      dsimp only at h
      split at h
      · obtain ⟨left, hleft, h⟩ := answers_bind h
        cases answers_pure hleft
        exact ⟨slot, { slot with player := none }, rfl, rfl, fun hu => hu, answers_pure h⟩
      · obtain ⟨left, hleft, h⟩ := answers_bind h
        obtain ⟨⟨admitted, taken⟩, htaken, rfl⟩ := answers_map hleft
        rcases setControl_cases htaken with ⟨-, heq⟩ | ⟨-, hpersists⟩
        · cases heq
          exact ⟨slot, { slot with player := none }, rfl, rfl, fun hu => hu, answers_pure h⟩
        · exact ⟨slot, left, rfl, hpersists.key, hpersists.uniform, answers_pure h⟩
    | moved key status time =>
      exact Or.inr (Or.inr ⟨key, status, time, slot, rfl, hslot, answers_pure h⟩)

/-! ## Distribution -/

/-- Whether vehicles have to be distributed anew. -/
def isDue (now : Millis) (s : Session α ρ) : Bool :=
  s.orchestrator.isStale || match s.orchestrator.lastDistribution with
    | some last => decide (distributionInterval ≤ now - last)
    | none => true

/-- Vehicles are distributed exactly if that is due, and then the time of it is noted. -/
theorem distributeIfDue_cases (h : Answers (s.distributeIfDue now) s') :
    (s.isDue now = true ∧ ∃ count after, Answers s.distributeVehicles (count, after) ∧
      s' = { after with orchestrator :=
        { after.orchestrator with lastDistribution := some now, isStale := false } }) ∨
    (s.isDue now = false ∧ s' = s) := by
  unfold distributeIfDue at h
  unfold isDue
  dsimp only at h
  generalize hlast : s.orchestrator.lastDistribution = last at h ⊢
  cases last with
  | none =>
    simp only [Bool.or_true, if_true] at h
    obtain ⟨⟨count, after⟩, hafter, h⟩ := answers_bind h
    exact Or.inl ⟨by simp, count, after, hafter, answers_pure h⟩
  | some last =>
    dsimp only at h ⊢
    split at h
    · next hdue =>
      obtain ⟨⟨count, after⟩, hafter, h⟩ := answers_bind h
      exact Or.inl ⟨hdue, count, after, hafter, answers_pure h⟩
    · next hdue => exact Or.inr ⟨Bool.eq_false_iff.mpr hdue, answers_pure h⟩

/-- Without a slot for the traffic nothing is distributed. Otherwise each slot that the traffic
drives gets its share as its target. -/
theorem distributeVehicles_cases {count : Nat} (h : Answers s.distributeVehicles (count, s')) :
    (s.world.trafficSlots = [] ∧ s' = s) ∨
    ∃ w, Answers (setTargets s.world.settings (s.world.trafficSlots.zip (distribute s.vehiclesWanted
      (s.world.trafficSlots.map (·.profile.vehicleLimit)))) s.world) w ∧
      s' = { s with world := w } := by
  unfold distributeVehicles at h
  dsimp only at h
  split at h
  · next hempty =>
    obtain ⟨-, -, h⟩ := answers_bind h
    cases answers_pure h
    exact Or.inl ⟨List.isEmpty_iff.mp hempty, rfl⟩
  · obtain ⟨w, hw, h⟩ := answers_bind h
    obtain ⟨-, -, h⟩ := answers_bind h
    cases answers_pure h
    exact Or.inr ⟨w, hw, rfl⟩

/-- What new targets leave true of each slot that gets one is true of all slots afterwards. -/
theorem setTargets_slots {P : Slot α ρ → Prop} {settings : Settings α}
    {pairs : List (Slot α ρ × Nat)} {w w' : World α ρ}
    (htarget : ∀ pair ∈ pairs, ∀ slot', Answers (pair.1.setTarget settings pair.2) slot' → P slot')
    (hw : ∀ slot ∈ w.slots, P slot) (h : Answers (setTargets settings pairs w) w') :
    ∀ slot ∈ w'.slots, P slot := by
  induction pairs generalizing w with
  | nil =>
    rw [answers_pure h]
    exact hw
  | cons pair rest ih =>
    obtain ⟨slot', hslot', h⟩ := answers_bind h
    refine ih (fun other hother => htarget other (List.mem_cons_of_mem _ hother)) ?_ h
    intro other hother
    rcases World.mem_store hother with hold | rfl
    · exact hw other hold
    · exact htarget pair (List.mem_cons_self ..) _ hslot'

/-- What is true of all slots, and of those of the traffic also with a new target, stays true when
vehicles are distributed. -/
theorem distributeIfDue_slots {P : Slot α ρ → Prop}
    (htarget : ∀ slot slot' : Slot α ρ, ∀ target, slot.byTraffic = true → P slot →
      Answers (slot.setTarget s.world.settings target) slot' → P slot')
    (hs : ∀ slot ∈ s.world.slots, P slot) (h : Answers (s.distributeIfDue now) s') :
    ∀ slot ∈ s'.world.slots, P slot := by
  rcases distributeIfDue_cases h with ⟨-, count, after, hafter, rfl⟩ | ⟨-, rfl⟩
  · rcases distributeVehicles_cases hafter with ⟨-, rfl⟩ | ⟨w, hw, rfl⟩
    · exact hs
    · refine setTargets_slots (fun pair hpair slot' hslot' => ?_) hs hw
      -- the slots that get targets are slots of the world
      have hmem := (List.of_mem_zip (a := pair.1) (b := pair.2) hpair).1
      obtain ⟨hmem, htraffic⟩ := List.mem_filter.mp hmem
      exact htarget _ slot' _ htraffic (hs _ (Array.mem_toList_iff.mp hmem)) hslot'
  · exact hs

theorem setTargets_faultless {settings : Settings α} (pairs : List (Slot α ρ × Nat))
    (w : World α ρ) : Faultless (setTargets settings pairs w) := by
  induction pairs generalizing w with
  | nil => exact faultless_pure _
  | cons pair rest ih =>
    have htarget : Faultless (pair.1.setTarget settings pair.2) :=
      (faultless_note _).bind fun _ => faultless_pure _
    exact htarget.bind fun _ => ih _

/-- Vehicles can always be distributed. -/
theorem distributeIfDue_faultless (now : Millis) (s : Session α ρ) :
    Faultless (s.distributeIfDue now) := by
  have hdistribute : Faultless s.distributeVehicles := by
    unfold distributeVehicles
    dsimp only
    split
    · exact (faultless_note _).bind fun _ => faultless_pure _
    · exact (setTargets_faultless _ _).bind fun _ => (faultless_note _).bind fun _ =>
        faultless_pure _
  unfold distributeIfDue
  dsimp only
  -- whether or not vehicles were distributed before, they may be due or not
  split <;> split
  · exact hdistribute.bind fun _ => faultless_pure _
  · exact faultless_pure _
  · exact hdistribute.bind fun _ => faultless_pure _
  · exact faultless_pure _

/-- Distributing vehicles leaves the events that are to be handled. -/
theorem distributeIfDue_events (h : Answers (s.distributeIfDue now) s') :
    s'.orchestrator.events = s.orchestrator.events := by
  rcases distributeIfDue_cases h with ⟨-, count, after, hafter, rfl⟩ | ⟨-, rfl⟩
  · rcases distributeVehicles_cases hafter with ⟨-, rfl⟩ | ⟨w, -, rfl⟩ <;> rfl
  · rfl

end Session

end RoadTraffic
