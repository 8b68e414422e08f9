import Mathlib.Data.List.Nodup
import RoadTraffic.World.Basic

/-!
# Looking slots up and putting them back

A slot is looked up by its key and put back in the place of the one with its key. `toList_store`
says what that does to the list of slots: the slot that the look-up finds is replaced, and all
others stay where they are. What is counted over the slots follows: the players, and the slots that
the traffic drives.
-/

namespace RoadTraffic

namespace World

variable {α ρ : Type} {w : World α ρ} {slot slot' : Slot α ρ} {key : SlotKey}

/-- The keys of the slots, in their order. -/
def keys (w : World α ρ) : List SlotKey := w.slots.toList.map (·.key)

/-- A look-up finds the first slot with the key. -/
theorem slot?_split (h : w.slot? key = some slot) :
    slot.key = key ∧ ∃ before after, w.slots.toList = before ++ slot :: after ∧
      ∀ other ∈ before, other.key ≠ key := by
  unfold slot? at h
  rw [← Array.find?_toList, List.find?_eq_some_iff_append] at h
  obtain ⟨hkey, before, after, hsplit, hbefore⟩ := h
  refine ⟨of_decide_eq_true hkey, before, after, hsplit, ?_⟩
  intro other hother heq
  have hdiffers := hbefore other hother
  rw [heq, decide_eq_true rfl] at hdiffers
  cases hdiffers

theorem slot?_mem (h : w.slot? key = some slot) : slot ∈ w.slots :=
  Array.mem_of_find?_eq_some h

/-- A slot is put in the place of the first one with its key. -/
theorem toList_store_of_split {before after : List (Slot α ρ)}
    (hsplit : w.slots.toList = before ++ slot :: after)
    (hbefore : ∀ other ∈ before, other.key ≠ slot.key) (hkey : slot'.key = slot.key) :
    (w.store slot').slots.toList = before ++ slot' :: after := by
  have hplace : w.place? slot'.key = some before.length := by
    unfold place?
    rw [show w.slots = w.slots.toList.toArray from rfl, List.findIdx?_toArray, hsplit,
      List.findIdx?_append]
    have hnone : before.findIdx? (fun s => decide (s.key = slot'.key)) = none := by
      rw [List.findIdx?_eq_none_iff]
      intro other hother
      rw [hkey]
      exact decide_eq_false (hbefore other hother)
    rw [hnone, List.findIdx?_cons, hkey, decide_eq_true rfl]
    simp
  unfold store
  rw [hplace]
  simp only [Array.toList_setIfInBounds, hsplit]
  rw [List.set_append_right _ _ (Nat.le_refl _), Nat.sub_self, List.set_cons_zero]

/-- Putting a slot back replaces the one that its key finds, and no other. -/
theorem toList_store (h : w.slot? key = some slot) (hkey : slot'.key = slot.key) :
    ∃ before after, w.slots.toList = before ++ slot :: after ∧
      (w.store slot').slots.toList = before ++ slot' :: after := by
  obtain ⟨hfound, before, after, hsplit, hbefore⟩ := slot?_split h
  rw [← hfound] at hbefore
  exact ⟨before, after, hsplit, toList_store_of_split hsplit hbefore hkey⟩

/-- Putting a slot back as it was found changes nothing. -/
theorem store_self (h : w.slot? key = some slot) : w.store slot = w := by
  obtain ⟨before, after, hsplit, hstore⟩ := toList_store h rfl
  have hslots : (w.store slot).slots = w.slots := Array.toList_inj.mp (hstore.trans hsplit.symm)
  unfold store at hslots ⊢
  split
  · next i hi =>
    rw [hi] at hslots
    simp only at hslots
    rw [hslots]
  · rfl

/-- After a slot was put back, every slot is an earlier one or that slot. -/
theorem mem_store {other : Slot α ρ} (h : other ∈ (w.store slot).slots) :
    other ∈ w.slots ∨ other = slot := by
  unfold store at h
  split at h
  · exact Array.mem_or_eq_of_mem_setIfInBounds h
  · exact Or.inl h

/-- Where no two slots have the same key, the slot that is put back takes the place of the only one
with its key. -/
theorem mem_store_of_nodup {other : Slot α ρ} (hnodup : w.keys.Nodup)
    (h : w.slot? key = some slot) (hkey : slot'.key = slot.key)
    (hother : other ∈ (w.store slot').slots) :
    other = slot' ∨ (other ∈ w.slots ∧ other.key ≠ slot.key) := by
  obtain ⟨before, after, hsplit, hstore⟩ := toList_store h hkey
  unfold keys at hnodup
  rw [hsplit, List.map_append, List.map_cons, List.nodup_middle, List.nodup_cons] at hnodup
  rw [← Array.mem_toList_iff, hstore, List.mem_append, List.mem_cons] at hother
  have hrest : other ∈ before ∨ other ∈ after → other ∈ w.slots ∧ other.key ≠ slot.key := by
    intro hmem
    refine ⟨?_, fun heq => hnodup.1 ?_⟩
    · rw [← Array.mem_toList_iff, hsplit, List.mem_append, List.mem_cons]
      exact hmem.imp id Or.inr
    · rw [← heq, List.mem_append]
      exact hmem.imp List.mem_map_of_mem List.mem_map_of_mem
  rcases hother with hbefore | rfl | hafter
  · exact Or.inr (hrest (Or.inl hbefore))
  · exact Or.inl rfl
  · exact Or.inr (hrest (Or.inr hafter))

/-- Among slots with different keys, one that is found by the key of another is that one. -/
theorem slot?_eq_of_mem (hnodup : w.keys.Nodup) {other : Slot α ρ} (hslot : w.slot? key = some slot)
    (hother : other ∈ w.slots) (hkey : other.key = key) : slot = other := by
  refine List.inj_on_of_nodup_map hnodup (Array.mem_toList_iff.mpr (slot?_mem hslot))
    (Array.mem_toList_iff.mpr hother) ?_
  rw [(slot?_split hslot).1, hkey]

/-- Among slots with different keys, each one is found by its key. -/
theorem slot?_of_mem (hnodup : w.keys.Nodup) (h : slot ∈ w.slots) :
    w.slot? slot.key = some slot := by
  have hfound : (w.slot? slot.key).isSome := by
    unfold slot?
    rw [Array.find?_isSome]
    exact ⟨slot, h, decide_eq_true rfl⟩
  obtain ⟨other, hother⟩ := Option.isSome_iff_exists.mp hfound
  rw [hother, slot?_eq_of_mem hnodup hother h rfl]

/-- After a slot was put back, its key finds it, and all other keys find what they did. -/
theorem slot?_store (h : w.slot? key = some slot) (hkey : slot'.key = slot.key)
    (other : SlotKey) :
    (w.store slot').slot? other = if other = slot.key then some slot' else w.slot? other := by
  obtain ⟨hfound, before, after, hsplit, hbefore⟩ := slot?_split h
  rw [← hfound] at hbefore
  have hstore := toList_store_of_split hsplit hbefore hkey
  unfold slot?
  rw [← Array.find?_toList, ← Array.find?_toList, hsplit, hstore, List.find?_append,
    List.find?_append, List.find?_cons, List.find?_cons, hkey]
  by_cases hother : other = slot.key
  · have hnone : before.find? (fun s => decide (s.key = other)) = none := by
      rw [List.find?_eq_none]
      intro s hs heq
      exact hbefore s hs ((of_decide_eq_true heq).trans hother)
    rw [hnone, if_pos hother, decide_eq_true hother.symm]
    rfl
  · rw [if_neg hother, decide_eq_false (fun heq => hother heq.symm)]

/-- Whatever slot is put back, the keys stay. -/
theorem keys_store : (w.store slot).keys = w.keys := by
  unfold store
  split
  · next i hi =>
    unfold place? at hi
    rw [show w.slots = w.slots.toList.toArray from rfl, List.findIdx?_toArray,
      List.findIdx?_eq_some_iff_getElem] at hi
    obtain ⟨hlt, hkey, -⟩ := hi
    have hkey : slot.key = (w.slots.toList[i]).key := (of_decide_eq_true hkey).symm
    have hlt : i < (w.slots.toList.map (·.key)).length := by
      rw [List.length_map]
      exact hlt
    have hsame : slot.key = (w.slots.toList.map (·.key))[i] := by rw [hkey, List.getElem_map]
    unfold keys
    rw [Array.toList_setIfInBounds, List.map_set, hsame, List.set_getElem_self]
  · rfl

theorem store_map : (w.store slot).map = w.map := by
  unfold store
  split
  · rfl
  · rfl

theorem store_settings : (w.store slot).settings = w.settings := by
  unfold store
  split
  · rfl
  · rfl

/-! ## What is counted over the slots -/

/-- How many players drive a slot: one or none. -/
def drivers (slot : Slot α ρ) : Nat := if !slot.byTraffic && slot.player.isSome then 1 else 0

theorem connectedPlayers_of_split {before after : List (Slot α ρ)}
    (hsplit : w.slots.toList = before ++ slot :: after) :
    w.connectedPlayers =
      (before.filter fun s => !s.byTraffic && s.player.isSome).length + drivers slot +
        (after.filter fun s => !s.byTraffic && s.player.isSome).length := by
  unfold connectedPlayers drivers
  rw [hsplit, List.filter_append, List.length_append, List.filter_cons]
  split
  · rw [List.length_cons]
    omega
  · omega

/-- Each player is named once, for the slot that the player drives. -/
theorem activePlayers_nodup [Scalar α] (hnodup : w.keys.Nodup) (now : Millis) :
    (w.activePlayers now).Nodup := by
  have hkeys : ∀ slots : List (Slot α ρ), ((slots.filterMap fun slot =>
      slot.player.map fun player => (slot.key, player)).map (·.1)).Sublist
        (slots.map (·.key)) := by
    intro slots
    induction slots with
    | nil => exact List.Sublist.refl _
    | cons slot rest ih =>
      rw [List.filterMap_cons]
      cases slot.player with
      | none => exact ih.cons _
      | some player => exact ih.cons_cons _
  refine List.Nodup.of_map (·.1) (hnodup.sublist ?_)
  unfold activePlayers
  exact (List.filter_sublist.map _).trans ((hkeys _).trans (List.filter_sublist.map _))

/-- When a slot is put back, its own driver is counted anew and nobody else. -/
theorem connectedPlayers_store (h : w.slot? key = some slot) (hkey : slot'.key = slot.key) :
    (w.store slot').connectedPlayers + drivers slot = w.connectedPlayers + drivers slot' := by
  obtain ⟨before, after, hsplit, hstore⟩ := toList_store h hkey
  rw [connectedPlayers_of_split hsplit, connectedPlayers_of_split hstore]
  omega

/-- What is told of the slots that the traffic drives stays as it is if the slot that is put back
has the same driver and tells the same. -/
theorem map_trafficSlots_store {γ : Type} {f : Slot α ρ → γ} (h : w.slot? key = some slot)
    (hkey : slot'.key = slot.key) (hdriver : slot'.byTraffic = slot.byTraffic)
    (hf : f slot' = f slot) : (w.store slot').trafficSlots.map f = w.trafficSlots.map f := by
  obtain ⟨before, after, hsplit, hstore⟩ := toList_store h hkey
  unfold trafficSlots
  rw [hsplit, hstore, List.filter_append, List.filter_append, List.filter_cons, List.filter_cons,
    hdriver]
  split
  · rw [List.map_append, List.map_append, List.map_cons, List.map_cons, hf]
  · rfl

/-- A slot that the traffic drives, before and after, stays where it was among those. -/
theorem trafficSlots_store {before after : List (Slot α ρ)} (hnodup : w.keys.Nodup)
    (hsplit : w.trafficSlots = before ++ slot :: after) (hkey : slot'.key = slot.key)
    (hdriver : slot'.byTraffic = slot.byTraffic) :
    w.slot? slot.key = some slot ∧ (w.store slot').trafficSlots = before ++ slot' :: after := by
  have hmem : slot ∈ w.trafficSlots := by
    rw [hsplit]
    exact List.mem_append_right before (List.mem_cons_self ..)
  obtain ⟨hslot, htraffic⟩ := List.mem_filter.mp hmem
  obtain ⟨front, back, hslots⟩ := List.append_of_mem hslot
  -- no other slot has its key, so that it is the one that is looked up
  have hothers : slot.key ∉ front.map (·.key) ++ back.map (·.key) := by
    unfold keys at hnodup
    rw [hslots, List.map_append, List.map_cons, List.nodup_middle, List.nodup_cons] at hnodup
    exact hnodup.1
  have hfront : ∀ other ∈ front, other.key ≠ slot.key := fun other hother heq =>
    hothers (heq ▸ List.mem_append_left _ (List.mem_map_of_mem hother))
  have hback : ∀ other ∈ back, other.key ≠ slot.key := fun other hother heq =>
    hothers (heq ▸ List.mem_append_right _ (List.mem_map_of_mem hother))
  refine ⟨slot?_of_mem hnodup (Array.mem_toList_iff.mp hslot), ?_⟩
  have hstore := toList_store_of_split hslots hfront hkey
  -- and there is only one way to split the list at it
  have hfilter : front.filter (·.byTraffic) ++ slot :: back.filter (·.byTraffic) =
      before ++ slot :: after := by
    rw [← hsplit, trafficSlots, hslots, List.filter_append, List.filter_cons, if_pos htraffic]
  obtain ⟨rfl, -, rfl⟩ := (List.append_cons_inj_of_notMem
    (fun h => hfront slot (List.mem_filter.mp h).1 rfl)
    (fun h => hback slot (List.mem_filter.mp h).1 rfl)).mp hfilter
  rw [trafficSlots, hstore, List.filter_append, List.filter_cons, hdriver, if_pos htraffic]

end World

end RoadTraffic
