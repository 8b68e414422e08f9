import RoadTraffic.Proofs.Slot.Pool
import RoadTraffic.Proofs.World.Persists

/-!
# The vehicles of a world

A vehicle is looked up by its identifier, which names its slot and its serial number there
(`vehicle?`); the pool of the slot tells whether it is in use (`InUse`). Two frames say what a
change of the world leaves alone: `Leaves id` is about one vehicle, and `Calm` about all of them. In
a calm change vehicles may be created and taken off the road, but none comes on the road and none
leaves its pool.
-/

namespace RoadTraffic

/-- A vehicle is off the road once it has been removed, and to remove it again changes nothing. -/
@[simp]
theorem Vehicle.remove_remove {α ρ : Type} [Scalar α] (v : Vehicle α ρ) :
    v.remove.remove = v.remove := rfl

namespace Slot

variable {α ρ : Type} [Scalar α] {slot slot' slot'' : Slot α ρ}

/-- No vehicle comes on the road and none leaves the pool. -/
structure Calm (slot slot' : Slot α ρ) : Prop where
  key : slot'.key = slot.key
  pool : slot.pool ⊆ slot'.pool
  vehicle : ∀ (serial : Nat) v, slot.vehicles[serial]? = some v →
    slot'.vehicles[serial]? = some v ∨ slot'.vehicles[serial]? = some v.remove
  placed : ∀ (serial : Nat) v, slot'.vehicles[serial]? = some v → v.placed = true →
    slot.vehicles[serial]? = some v

theorem Calm.refl : slot.Calm slot :=
  ⟨rfl, List.Subset.refl _, fun _ _ h => Or.inl h, fun _ _ h _ => h⟩

/-- Only the vehicles and the pool matter, and the key. -/
theorem Calm.of_eq (hkey : slot'.key = slot.key) (hpool : slot'.pool = slot.pool)
    (hvehicles : slot'.vehicles = slot.vehicles) : slot.Calm slot' := by
  refine ⟨hkey, hpool ▸ List.Subset.refl _, fun serial v hv => Or.inl ?_, fun serial v hv _ => ?_⟩
  · rw [hvehicles]
    exact hv
  · rw [hvehicles] at hv
    exact hv

theorem Calm.trans (h : slot.Calm slot') (h' : slot'.Calm slot'') : slot.Calm slot'' where
  key := h'.key.trans h.key
  pool := List.Subset.trans h.pool h'.pool
  vehicle serial v hv := by
    rcases h.vehicle serial v hv with hsame | hremoved
    · exact h'.vehicle serial v hsame
    · have hlater := h'.vehicle serial _ hremoved
      rw [Vehicle.remove_remove, or_self] at hlater
      exact Or.inr hlater
  placed serial v hv hplaced := h.placed serial v (h'.placed serial v hv hplaced) hplaced

theorem removeFromRoad_calm (slot : Slot α ρ) (serials : List Nat) :
    slot.Calm (slot.removeFromRoad serials) where
  key := rfl
  pool := List.Subset.refl _
  vehicle serial v hv := by
    rw [getElem?_removeFromRoad, hv]
    split
    · exact Or.inr rfl
    · exact Or.inl rfl
  placed serial v hv hplaced := by
    rw [getElem?_removeFromRoad] at hv
    split at hv
    · -- whoever has been taken off the road is not placed
      obtain ⟨u, -, rfl⟩ := Option.map_eq_some_iff.mp hv
      cases hplaced
    · exact hv

theorem removeUnsafe_calm {m : RoadMap α} {s : Settings α} {count : Nat}
    (h : Answers (slot.removeUnsafe m s) (count, slot')) : slot.Calm slot' := by
  rw [removeUnsafe_eq h]
  exact removeFromRoad_calm ..

theorem setControl_calm {byTraffic admitted : Bool}
    (h : Answers (slot.setControl byTraffic) (admitted, slot')) : slot.Calm slot' := by
  obtain ⟨driver, rfl | rfl⟩ := setControl_changes h
  · exact .of_eq rfl rfl rfl
  · have hdriven : slot.Calm { slot with byTraffic := driver } := .of_eq rfl rfl rfl
    exact hdriven.trans (removeFromRoad_calm ..)

theorem setTarget_calm [RandomSource ρ] {s : Settings α} {count : Nat}
    (h : Answers (slot.setTarget s count) slot') : slot.Calm slot' := by
  obtain ⟨new, random, -, hnew, rfl⟩ := setTarget_changes h
  refine ⟨rfl, List.subset_append_left .., fun serial v hv => Or.inl ?_,
    fun serial v hv hplaced => ?_⟩
  · exact (Array.getElem?_append_left (Array.getElem?_eq_some_iff.mp hv).1).trans hv
  · have hv : (slot.vehicles ++ new.toArray)[serial]? = some v := hv
    rw [Array.getElem?_append] at hv
    split at hv
    · exact hv
    · -- a vehicle that has just been created is not on the road
      have hmem := List.mem_toArray.mp (Array.mem_of_getElem? hv)
      rw [hnew v hmem] at hplaced
      cases hplaced

end Slot

namespace World

variable {α ρ : Type} {w w' w'' : World α ρ} {slot slot' : Slot α ρ} {key : SlotKey}
  {id : VehicleId}

/-- The vehicle with an identifier, in use or not. -/
def vehicle? (w : World α ρ) (id : VehicleId) : Option (Vehicle α ρ) :=
  (w.slot? id.slot).bind fun slot => slot.vehicles[id.serial]?

/-- The pool of its slot has the vehicle. -/
def InUse (w : World α ρ) (id : VehicleId) : Prop :=
  ∃ slot, w.slot? id.slot = some slot ∧ id.serial ∈ slot.pool

instance : Decidable (w.InUse id) :=
  inferInstanceAs (Decidable (∃ slot ∈ w.slot? id.slot, id.serial ∈ slot.pool))

theorem vehicle?_eq (h : w.slot? id.slot = some slot) :
    w.vehicle? id = slot.vehicles[id.serial]? := by
  unfold vehicle?
  rw [h, Option.bind_some]

theorem inUse_iff (h : w.slot? id.slot = some slot) : w.InUse id ↔ id.serial ∈ slot.pool := by
  unfold InUse
  rw [h]
  exact ⟨fun ⟨_, hsome, hmem⟩ => Option.some.inj hsome ▸ hmem, fun hmem => ⟨slot, rfl, hmem⟩⟩

/-! ## One vehicle -/

/-- The vehicle is what it was, and in use if it was. -/
structure Leaves (id : VehicleId) (w w' : World α ρ) : Prop where
  vehicle : w'.vehicle? id = w.vehicle? id
  inUse : w'.InUse id ↔ w.InUse id

theorem Leaves.refl : w.Leaves id w := ⟨rfl, Iff.rfl⟩

theorem Leaves.trans (h : w.Leaves id w') (h' : w'.Leaves id w'') : w.Leaves id w'' :=
  ⟨h'.vehicle.trans h.vehicle, h'.inUse.trans h.inUse⟩

/-- A slot that is put back leaves the vehicles of other slots alone, and those of its own that are
what they were. -/
theorem leaves_store (h : w.slot? key = some slot) (hkey : slot'.key = slot.key)
    (hid : id.slot = slot.key → slot'.vehicles[id.serial]? = slot.vehicles[id.serial]? ∧
      (id.serial ∈ slot'.pool ↔ id.serial ∈ slot.pool)) : w.Leaves id (w.store slot') := by
  have hlookup := slot?_store h hkey id.slot
  by_cases hslot : id.slot = slot.key
  · rw [if_pos hslot] at hlookup
    rw [← (slot?_split h).1, ← hslot] at h
    obtain ⟨hvehicle, hpool⟩ := hid hslot
    refine ⟨?_, ?_⟩
    · rw [vehicle?_eq hlookup, vehicle?_eq h, hvehicle]
    · rw [inUse_iff hlookup, inUse_iff h, hpool]
  · rw [if_neg hslot] at hlookup
    refine ⟨?_, ?_⟩
    · unfold vehicle?
      rw [hlookup]
    · unfold InUse
      rw [hlookup]

/-! ## All vehicles -/

variable [Scalar α]

/-- No vehicle comes on the road and none leaves its pool. -/
def Calm (w w' : World α ρ) : Prop := ∀ key, Option.Rel Slot.Calm (w.slot? key) (w'.slot? key)

theorem Calm.refl : w.Calm w := by
  intro key
  cases w.slot? key with
  | none => exact .none
  | some slot => exact .some .refl

theorem Calm.trans (h : w.Calm w') (h' : w'.Calm w'') : w.Calm w'' := by
  intro key
  have hfirst := h key
  have hsecond := h' key
  generalize w.slot? key = found, w'.slot? key = found', w''.slot? key = found'' at *
  cases hfirst with
  | none => exact hsecond
  | some hcalm =>
    cases hsecond with
    | some hcalm' => exact .some (hcalm.trans hcalm')

theorem store_calm (h : w.slot? key = some slot) (hcalm : slot.Calm slot') :
    w.Calm (w.store slot') := by
  intro other
  rw [slot?_store h hcalm.key other]
  split
  · next hother =>
    rw [hother, (slot?_split h).1, h]
    exact .some hcalm
  · exact Calm.refl other

/-- Slots that are changed one by one, and calmly, are changed calmly as a whole. -/
theorem calm_of_forall₂ (h : List.Forall₂ Slot.Calm w.slots.toList w'.slots.toList) :
    w.Calm w' := by
  intro key
  unfold slot?
  rw [← Array.find?_toList, ← Array.find?_toList]
  generalize w.slots.toList = slots, w'.slots.toList = slots' at h
  induction h with
  | nil => exact .none
  | @cons a b _ _ hab _ ih =>
    rw [List.find?_cons, List.find?_cons, hab.key]
    split
    · exact .some hab
    · exact ih

/-- Whoever is in use stays in use. -/
theorem Calm.inUse (h : w.Calm w') (hid : w.InUse id) : w'.InUse id := by
  obtain ⟨slot, hslot, hmem⟩ := hid
  have hrel := h id.slot
  rw [hslot] at hrel
  generalize hfound : w'.slot? id.slot = found at hrel
  cases hrel with
  | some hcalm => exact ⟨_, hfound, hcalm.pool hmem⟩

/-- Each vehicle stays as it is or is taken off the road. -/
theorem Calm.vehicle (h : w.Calm w') {v : Vehicle α ρ} (hv : w.vehicle? id = some v) :
    w'.vehicle? id = some v ∨ w'.vehicle? id = some v.remove := by
  obtain ⟨slot, hslot, hv⟩ := Option.bind_eq_some_iff.mp hv
  have hrel := h id.slot
  rw [hslot] at hrel
  generalize hfound : w'.slot? id.slot = found at hrel
  cases hrel with
  | some hcalm =>
    rw [vehicle?_eq hfound]
    exact hcalm.vehicle id.serial v hv

/-- Whoever is on the road was on it, where it is. -/
theorem Calm.placed (h : w.Calm w') {v : Vehicle α ρ} (hv : w'.vehicle? id = some v)
    (hplaced : v.placed = true) : w.vehicle? id = some v := by
  obtain ⟨slot', hslot', hv⟩ := Option.bind_eq_some_iff.mp hv
  have hrel := h id.slot
  rw [hslot'] at hrel
  generalize hfound : w.slot? id.slot = found at hrel
  cases hrel with
  | some hcalm =>
    rw [vehicle?_eq hfound]
    exact hcalm.placed id.serial v hv hplaced

end World

end RoadTraffic
