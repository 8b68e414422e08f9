import RoadTraffic.Proofs.Slot.Persists
import RoadTraffic.Proofs.World.Store

/-!
# What the motion of the traffic leaves of the world

`World.Persists old new` says that the map and the settings are the same in both worlds and that
`Slot.Persists` relates their slots, place by place. That is what everything keeps that happens to
the vehicles alone: their motion, their choice of target speeds, and every slot that is looked up
and put back with nothing but its vehicles changed. What is counted over the slots is then the same
too: which of them the traffic drives, their targets and the players who are there.
-/

namespace RoadTraffic

/-- A relation that can be chained can be chained along lists. -/
private theorem forall₂_trans {β : Type} {R : β → β → Prop} {l l' l'' : List β}
    (h : List.Forall₂ R l l') (h' : List.Forall₂ R l' l'')
    (hR : ∀ a b c, R a b → R b c → R a c) : List.Forall₂ R l l'' := by
  induction h generalizing l'' with
  | nil => exact h'
  | cons hab _ ih =>
    cases h' with
    | cons hbc hrest => exact List.Forall₂.cons (hR _ _ _ hab hbc) (ih hrest)

/-- What related elements agree in, related lists agree in. -/
private theorem forall₂_map_eq {β γ : Type} {R : β → β → Prop} {f : β → γ} {l l' : List β}
    (h : List.Forall₂ R l l') (hf : ∀ a b, R a b → f b = f a) : l'.map f = l.map f := by
  induction h with
  | nil => rfl
  | cons hab _ ih => rw [List.map_cons, List.map_cons, hf _ _ hab, ih]

namespace World

variable {α ρ : Type}

/-- All vehicles drive with the profiles of their slots. -/
def Uniform (w : World α ρ) : Prop := ∀ slot ∈ w.slots, slot.Uniform

/-- The world is the same but for the vehicles of its slots. -/
structure Persists (old new : World α ρ) : Prop where
  map : new.map = old.map
  settings : new.settings = old.settings
  slots : List.Forall₂ Slot.Persists old.slots.toList new.slots.toList

variable {w w' w'' : World α ρ}

theorem Persists.refl : w.Persists w :=
  ⟨rfl, rfl, List.forall₂_same.mpr fun _ _ => .refl⟩

theorem Persists.trans (h : w.Persists w') (h' : w'.Persists w'') : w.Persists w'' :=
  ⟨h'.map.trans h.map, h'.settings.trans h.settings,
    forall₂_trans h.slots h'.slots fun _ _ _ => .trans⟩

theorem Persists.keys (h : w.Persists w') : w'.keys = w.keys :=
  forall₂_map_eq h.slots fun _ _ hslot => hslot.key

/-- Each slot has come from one of the earlier ones. -/
theorem Persists.slot (h : w.Persists w') {slot' : Slot α ρ} (hslot' : slot' ∈ w'.slots) :
    ∃ slot ∈ w.slots, slot.Persists slot' := by
  obtain ⟨slot, hslot, hpersists⟩ := exists_of_forall₂ h.slots (Array.mem_toList_iff.mpr hslot')
  exact ⟨slot, Array.mem_toList_iff.mp hslot, hpersists⟩

theorem Persists.uniform (h : w.Persists w') (hw : w.Uniform) : w'.Uniform := by
  intro slot' hslot'
  obtain ⟨slot, hslot, hpersists⟩ := h.slot hslot'
  exact hpersists.uniform (hw slot hslot)

/-! ## What is counted over the slots -/

/-- The traffic drives the same slots. -/
theorem Persists.trafficSlots (h : w.Persists w') :
    List.Forall₂ Slot.Persists w.trafficSlots w'.trafficSlots := by
  refine List.rel_filter ?_ h.slots
  intro slot slot' hslot
  dsimp only
  rw [hslot.byTraffic]

theorem Persists.trafficKeys (h : w.Persists w') :
    w'.trafficSlots.map (·.key) = w.trafficSlots.map (·.key) :=
  forall₂_map_eq h.trafficSlots fun _ _ hslot => hslot.key

theorem Persists.targets (h : w.Persists w') :
    w'.trafficSlots.map (·.target) = w.trafficSlots.map (·.target) :=
  forall₂_map_eq h.trafficSlots fun _ _ hslot => hslot.target

theorem Persists.limits (h : w.Persists w') :
    w'.trafficSlots.map (·.profile.vehicleLimit) = w.trafficSlots.map (·.profile.vehicleLimit) :=
  forall₂_map_eq h.trafficSlots fun _ _ hslot => by rw [hslot.profile]

theorem Persists.connectedPlayers (h : w.Persists w') :
    w'.connectedPlayers = w.connectedPlayers := by
  refine (List.Forall₂.length_eq (List.rel_filter ?_ h.slots)).symm
  intro slot slot' hslot
  dsimp only
  rw [hslot.byTraffic, hslot.player]

/-- The same players are there and drive. -/
theorem Persists.activePlayers [Scalar α] (h : w.Persists w') (now : Millis) :
    w'.activePlayers now = w.activePlayers now := by
  unfold World.activePlayers
  rw [h.settings]
  have hslots := h.slots
  generalize w.slots.toList = slots, w'.slots.toList = slots' at hslots
  refine congrArg (List.filter _) ?_
  induction hslots with
  | nil => rfl
  | cons hslot _ ih =>
    rw [List.filter_cons, List.filter_cons, hslot.byTraffic]
    split
    · rw [List.filterMap_cons, List.filterMap_cons, hslot.player, hslot.key, ih]
    · exact ih

/-! ## What persists -/

/-- If all slots are changed one by one, what each of them keeps is true of all slots afterwards. -/
theorem mapM_slots {m : Type → Type} [Monad m] [LawfulMonad m] [Answering m]
    {P : Slot α ρ → Prop} {change : Slot α ρ → m (Slot α ρ)} {slots : List (Slot α ρ)}
    (hw : ∀ slot ∈ w.slots, P slot) (hslots : Answers (w.slots.toList.mapM change) slots)
    (hchange : ∀ slot slot', P slot → Answers (change slot) slot' → P slot') :
    ∀ slot ∈ slots.toArray, P slot := by
  intro slot' hslot'
  obtain ⟨slot, hslot, hchanged⟩ :=
    exists_of_forall₂ (answers_mapM hslots) (List.mem_toArray.mp hslot')
  exact hchange slot slot' (hw slot (Array.mem_toList_iff.mp hslot)) hchanged

/-- A slot may be put back with nothing but its vehicles changed. -/
theorem store_persists {key : SlotKey} {slot slot' : Slot α ρ} (hslot : w.slot? key = some slot)
    (h : slot.Persists slot') : w.Persists (w.store slot') := by
  obtain ⟨before, after, hsplit, hstore⟩ := toList_store hslot h.key
  refine ⟨store_map, store_settings, ?_⟩
  rw [hsplit, hstore]
  exact List.rel_append (List.forall₂_same.mpr fun _ _ => .refl)
    (List.Forall₂.cons h (List.forall₂_same.mpr fun _ _ => .refl))

variable [Scalar α] [RandomSource ρ]

/-- The vehicles of a slot move if the traffic drives it. A dead end is noted in the journal, and
the slot is kept as far as it has moved. -/
theorem updateSlot_cases {m : RoadMap α} {s : Settings α} {now : Millis} {slot slot' : Slot α ρ}
    (h : Answers (updateSlot m s now slot) slot') :
    (slot.byTraffic = true ∧ ∃ outcome, Answers (slot.update m s now) (outcome, slot')) ∨
      (slot.byTraffic = false ∧ slot' = slot) := by
  unfold updateSlot at h
  split at h
  · next hplayer => exact Or.inr ⟨by simpa using hplayer, answers_pure h⟩
  · next htraffic =>
    obtain ⟨⟨outcome, moved⟩, hmoved, h⟩ := answers_bind h
    have hmoves : slot.byTraffic = true ∧
        ∃ outcome, Answers (slot.update m s now) (outcome, moved) :=
      ⟨by simpa using htraffic, outcome, hmoved⟩
    dsimp only at h
    split at h
    · obtain ⟨-, -, h⟩ := answers_bind h
      rw [answers_pure h]
      exact Or.inl hmoves
    · rw [answers_pure h]
      exact Or.inl hmoves

theorem update_persists {now : Millis} (h : Answers (w.update now) w') : w.Persists w' := by
  unfold update at h
  obtain ⟨slots, hslots, h⟩ := answers_bind h
  rw [answers_pure h]
  refine ⟨rfl, rfl, (answers_mapM hslots).imp ?_⟩
  intro slot slot' hslot
  rcases updateSlot_cases hslot with ⟨-, outcome, hmoved⟩ | ⟨-, rfl⟩
  · exact Slot.updateEach_persists hmoved
  · exact Slot.Persists.refl

theorem lookOut_persists {now : Millis} (h : Answers (w.lookOut now) w') : w.Persists w' := by
  unfold lookOut at h
  obtain ⟨slots, hslots, h⟩ := answers_bind h
  rw [answers_pure h]
  refine ⟨rfl, rfl, (answers_mapM hslots).imp ?_⟩
  intro slot slot' hslot
  split at hslot
  · exact Slot.lookOut_persists hslot
  · rw [answers_pure hslot]
    exact Slot.Persists.refl

end World

end RoadTraffic
