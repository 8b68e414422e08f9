import Mathlib.Data.List.Nodup
import RoadTraffic.Proofs.Random.Tape
import RoadTraffic.Proofs.Roads.SideBySide
import RoadTraffic.Proofs.Slot.Persists

/-!
# The pool of a slot

Whatever is done to a slot, its pool changes in two ways only (`PoolStep`): a new target makes it
grow by vehicles that have just been created, and a vehicle at or behind the target that comes up
for being placed is given up. So the vehicles in use differ, there are at least as many as the slot
should have, and never more than it should have had at some time (`pool_of_acted`). A vehicle that
is given up does not come back, since serial numbers are not used twice (`Acted.stays_out`).
-/

namespace RoadTraffic

namespace Slot

variable {α ρ : Type} [Scalar α] [RandomSource ρ]

/-! ## The vehicles in use -/

omit [Scalar α] [RandomSource ρ] in
theorem mem_members {slot : Slot α ρ} {i : Nat} {a : Vehicle α ρ} :
    (i, a) ∈ slot.members ↔ i ∈ slot.pool ∧ slot.vehicles[i]? = some a := by
  unfold members
  rw [List.mem_filterMap]
  constructor
  · rintro ⟨j, hj, hjv⟩
    obtain ⟨b, hb, hbi⟩ := Option.map_eq_some_iff.mp hjv
    obtain ⟨rfl, rfl⟩ := Prod.mk.inj hbi
    exact ⟨hj, hb⟩
  · rintro ⟨hi, ha⟩
    exact ⟨i, hi, by rw [ha, Option.map_some]⟩

omit [Scalar α] [RandomSource ρ] in
/-- The vehicles in use are named in the order of the pool. -/
theorem members_sublist (slot : Slot α ρ) : (slot.members.map (·.1)).Sublist slot.pool := by
  unfold members
  generalize slot.pool = pool
  induction pool with
  | nil => exact List.Sublist.refl _
  | cons serial rest ih =>
    rw [List.filterMap_cons]
    cases slot.vehicles[serial]? with
    | none => exact ih.cons serial
    | some v => exact ih.cons_cons serial

omit [Scalar α] [RandomSource ρ] in
theorem mem_placed {slot : Slot α ρ} {i : Nat} {a : Vehicle α ρ} :
    (i, a) ∈ slot.placed ↔ i ∈ slot.pool ∧ slot.vehicles[i]? = some a ∧ a.placed = true := by
  unfold placed
  rw [List.mem_filter, mem_members, and_assoc]

/-! ## What is done to a slot -/

/-- What is done to a slot, by the orchestrator or by anybody else who knows its vehicles. -/
inductive Action (α : Type) where
  | setTarget (s : Settings α) (count : Nat)
  /-- A vehicle, of this slot or another one, is tried for a point. -/
  | tryFor (m : RoadMap α) (s : Settings α) (id : VehicleId) (point : PointId)
  | removeUnsafe (m : RoadMap α) (s : Settings α)
  | removeAll
  /-- A vehicle that the slot has or had is placed. -/
  | place (m : RoadMap α) (s : Settings α) (serial : Nat) (point : PointId) (now : Millis)
      (renewed : Bool)
  | update (m : RoadMap α) (s : Settings α) (now : Millis)
  | lookOut (m : RoadMap α) (s : Settings α) (around : Surroundings α) (now : Millis)
  | setControl (byTraffic : Bool)
  | setPlayer (player : Option (Player α))

/-- The slot after an action. -/
def act (slot : Slot α ρ) : Action α → Logged α (Slot α ρ)
  | .setTarget s count => slot.setTarget s count
  | .tryFor m s id point => (·.2) <$> slot.canPlace m s id point
  | .removeUnsafe m s => (·.2) <$> slot.removeUnsafe m s
  | .removeAll => return slot.removeAll
  | .place m s serial point now renewed => do
    match slot.vehicles[serial]? with
    | none => return slot
    | some v => return slot.store serial (← v.place m s point now renewed).2
  | .update m s now => (·.2) <$> slot.update m s now
  | .lookOut m s around now => do slot.lookOut m s around now
  | .setControl byTraffic => (·.2) <$> slot.setControl byTraffic
  | .setPlayer player => return { slot with player }

/-- Actions lead from one slot to another. -/
inductive Acted : Slot α ρ → List (Action α) → Slot α ρ → Prop
  | done {slot : Slot α ρ} : Acted slot [] slot
  | next {slot between slot' : Slot α ρ} {action : Action α} {rest : List (Action α)}
      (hact : Answers (slot.act action) between) (hrest : Acted between rest slot') :
      Acted slot (action :: rest) slot'

theorem Acted.append {slot slot' slot'' : Slot α ρ} {actions later : List (Action α)}
    (h : Acted slot actions slot') (h' : Acted slot' later slot'') :
    Acted slot (actions ++ later) slot'' := by
  induction h with
  | done => exact h'
  | next hact _ ih => exact .next hact (ih h')

theorem acted_of_foldlM {slot slot' : Slot α ρ} {actions : List (Action α)}
    (h : Answers (actions.foldlM act slot) slot') : Acted slot actions slot' := by
  induction actions generalizing slot with
  | nil =>
    rw [answers_pure h]
    exact .done
  | cons action rest ih =>
    rw [List.foldlM_cons] at h
    obtain ⟨between, hact, h⟩ := answers_bind h
    exact .next hact (ih h)

/-- The target that an action sets, and zero for one that sets none. -/
def Action.target : Action α → Nat
  | .setTarget _ count => count
  | _ => 0

/-- The largest target that actions set. -/
def largestTarget (actions : List (Action α)) : Nat := (actions.map Action.target).foldr max 0

/-! ## What an action does to the pool -/

/-- What one action can do to the pool of a slot. -/
inductive PoolStep (slot : Slot α ρ) : Action α → Slot α ρ → Prop
  | kept {action : Action α} {slot' : Slot α ρ} (hpool : slot'.pool = slot.pool)
      (hsize : slot'.vehicles.size = slot.vehicles.size) (htarget : slot'.target = slot.target) :
      PoolStep slot action slot'
  /-- Vehicles join that have just been created. -/
  | grown {s : Settings α} {count : Nat} {slot' : Slot α ρ}
      (hpool : slot'.pool =
        slot.pool ++ List.range' slot.vehicles.size (count - slot.pool.length))
      (hsize : slot'.vehicles.size = slot.vehicles.size + (count - slot.pool.length))
      (htarget : slot'.target = count) : PoolStep slot (.setTarget s count) slot'
  /-- A vehicle that the pool should not have any more is given up. -/
  | givenUp {action : Action α} {serial : Nat} {slot' : Slot α ρ} (hmem : serial ∈ slot.pool)
      (hsurplus : slot.target ≤ slot.pool.idxOf serial)
      (hpool : slot'.pool = slot.pool.erase serial)
      (hsize : slot'.vehicles.size = slot.vehicles.size) (htarget : slot'.target = slot.target) :
      PoolStep slot action slot'

variable {slot slot' : Slot α ρ} {m : RoadMap α} {s : Settings α}

omit [RandomSource ρ] in
theorem removeFromRoad_size (slot : Slot α ρ) (serials : List Nat) :
    (slot.removeFromRoad serials).vehicles.size = slot.vehicles.size := by
  unfold removeFromRoad
  generalize slot.vehicles = vehicles
  induction serials generalizing vehicles with
  | nil => rfl
  | cons serial rest ih => exact (ih _).trans Array.size_modify

omit [Scalar α] [RandomSource ρ] in
theorem store_size (slot : Slot α ρ) (serial : Nat) (v : Vehicle α ρ) :
    (slot.store serial v).vehicles.size = slot.vehicles.size := Array.size_setIfInBounds

theorem create_length {key : SlotKey} {profile : Profile α} {n made : Nat} {r : ρ} :
    (create key profile s n made r).1.length = n := by
  induction n generalizing made r with
  | zero => rfl
  | succ n ih => exact congrArg (· + 1) ih

/-- New vehicles are not on the road. -/
theorem create_placed {key : SlotKey} {profile : Profile α} {n made : Nat} {r : ρ} :
    ∀ v ∈ (create key profile s n made r).1, v.placed = false := by
  induction n generalizing made r with
  | zero =>
    intro v hv
    cases hv
  | succ n ih =>
    intro v hv
    rcases List.mem_cons.mp hv with rfl | hv
    · rfl
    · exact ih v hv

/-- A new target lets vehicles join behind those in use, and changes none. -/
theorem setTarget_changes {count : Nat} (h : Answers (slot.setTarget s count) slot') :
    ∃ new : List (Vehicle α ρ), ∃ random, new.length = count - slot.pool.length ∧
      (∀ v ∈ new, v.placed = false) ∧
      slot' = { slot with
        target := count
        vehicles := slot.vehicles ++ new.toArray
        pool := slot.pool ++ List.range' slot.vehicles.size (count - slot.pool.length)
        random } := by
  unfold setTarget at h
  obtain ⟨-, -, h⟩ := answers_bind h
  exact ⟨_, _, create_length, create_placed, answers_pure h⟩

theorem updateEach_pool {now : Millis} {serials : List Nat} {outcome : Except DeadEnd Unit}
    (h : Answers (slot.updateEach m s now serials) (outcome, slot')) :
    slot'.pool = slot.pool ∧ slot'.vehicles.size = slot.vehicles.size := by
  induction serials generalizing slot outcome with
  | nil =>
    cases answers_pure h
    exact ⟨rfl, rfl⟩
  | cons serial rest ih =>
    unfold updateEach at h
    split at h
    · exact ih h
    · obtain ⟨⟨moved, v⟩, -, h⟩ := answers_bind h
      obtain ⟨⟨later, after⟩, hlater, h⟩ := answers_bind h
      cases answers_pure h
      obtain ⟨hpool, hsize⟩ := ih hlater
      exact ⟨hpool, hsize.trans (store_size ..)⟩

theorem lookOut_pool {around : Surroundings α} {now : Millis}
    (h : Answers (slot.lookOut m s around now) slot') :
    slot'.pool = slot.pool ∧ slot'.vehicles.size = slot.vehicles.size := by
  unfold lookOut at h
  refine answers_foldlM (P := fun after : Slot α ρ =>
    after.pool = slot.pool ∧ after.vehicles.size = slot.vehicles.size) ?_ ⟨rfl, rfl⟩ h
  intro serial _ before after hbefore hstep
  split at hstep
  · rw [answers_pure hstep]
    exact hbefore
  · obtain ⟨v, -, hstep⟩ := answers_bind hstep
    rw [answers_pure hstep]
    exact ⟨hbefore.1, (store_size ..).trans hbefore.2⟩

omit [RandomSource ρ] in
/-- Whoever is to drive a slot, its vehicles are left alone or all taken off the road. -/
theorem setControl_changes {byTraffic admitted : Bool}
    (h : Answers (slot.setControl byTraffic) (admitted, slot')) :
    ∃ driver, slot' = { slot with byTraffic := driver } ∨
      slot' = removeAll { slot with byTraffic := driver } := by
  unfold setControl at h
  split at h
  · cases answers_pure h
    exact ⟨slot.byTraffic, Or.inl rfl⟩
  · split at h
    · cases answers_pure h
      exact ⟨slot.byTraffic, Or.inl rfl⟩
    · obtain ⟨-, -, h⟩ := answers_bind h
      cases answers_pure h
      refine ⟨byTraffic, ?_⟩
      cases byTraffic with
      | true => exact Or.inl rfl
      | false => exact Or.inr rfl

theorem act_poolStep {action : Action α} (h : Answers (slot.act action) slot') :
    PoolStep slot action slot' := by
  cases action with
  | setTarget s count =>
    obtain ⟨new, random, hlength, -, rfl⟩ := setTarget_changes h
    refine .grown rfl ?_ rfl
    show (slot.vehicles ++ new.toArray).size = _
    rw [Array.size_append, ← hlength]
    rfl
  | tryFor m s id point =>
    obtain ⟨⟨admitted, after⟩, htry, rfl⟩ := answers_map h
    rcases canPlace_cases htry with ⟨rfl, -⟩ | ⟨-, -, hmem, hsurplus, rfl⟩
    · exact .kept rfl rfl rfl
    · exact .givenUp hmem hsurplus rfl (removeFromRoad_size ..) rfl
  | removeUnsafe m s =>
    obtain ⟨⟨count, after⟩, hremoved, rfl⟩ := answers_map h
    rw [removeUnsafe_eq hremoved]
    exact .kept rfl (removeFromRoad_size ..) rfl
  | removeAll =>
    rw [answers_pure h]
    exact .kept rfl (removeFromRoad_size ..) rfl
  | place m s serial point now renewed =>
    unfold act at h
    dsimp only at h
    split at h
    · rw [answers_pure h]
      exact .kept rfl rfl rfl
    · obtain ⟨placed, -, h⟩ := answers_bind h
      rw [answers_pure h]
      exact .kept rfl (store_size ..) rfl
  | update m s now =>
    obtain ⟨⟨outcome, after⟩, hmoved, rfl⟩ := answers_map h
    obtain ⟨hpool, hsize⟩ := updateEach_pool hmoved
    exact .kept hpool hsize (updateEach_persists hmoved).target
  | lookOut m s around now =>
    have hlooked := answers_lift h
    obtain ⟨hpool, hsize⟩ := lookOut_pool hlooked
    exact .kept hpool hsize (lookOut_persists hlooked).target
  | setControl byTraffic =>
    obtain ⟨⟨admitted, after⟩, hcontrol, rfl⟩ := answers_map h
    obtain ⟨driver, rfl | rfl⟩ := setControl_changes hcontrol
    · exact .kept rfl rfl rfl
    · exact .kept rfl (removeFromRoad_size ..) rfl
  | setPlayer player =>
    rw [answers_pure h]
    exact .kept rfl rfl rfl

/-! ## What every action keeps -/

omit [Scalar α] [RandomSource ρ] in
/-- The vehicles in use differ, each of them was created, and there are enough of them. -/
structure Pooled (slot : Slot α ρ) : Prop where
  nodup : slot.pool.Nodup
  made : ∀ serial ∈ slot.pool, serial < slot.vehicles.size
  target_le : slot.target ≤ slot.pool.length

theorem new_pooled {key : SlotKey} {model skin : String} {mode : ControlMode} {seed : UInt64} :
    (new key model skin mode s seed : Slot α ρ).Pooled where
  nodup := List.nodup_nil
  made _ h := absurd h List.not_mem_nil
  target_le := Nat.zero_le _

omit [Scalar α] [RandomSource ρ] in
theorem PoolStep.pooled {action : Action α} (h : PoolStep slot action slot') (hs : slot.Pooled) :
    slot'.Pooled := by
  cases h with
  | kept hpool hsize htarget =>
    exact ⟨hpool ▸ hs.nodup, by rw [hpool, hsize]; exact hs.made,
      by rw [hpool, htarget]; exact hs.target_le⟩
  | grown hpool hsize htarget =>
    refine ⟨?_, fun serial hserial => ?_, ?_⟩
    · -- the new serial numbers are larger than all that were used before
      rw [hpool]
      refine hs.nodup.append List.nodup_range' fun serial hold hnew => ?_
      have hlt := hs.made serial hold
      have hle := (List.mem_range'_1.mp hnew).1
      omega
    · rw [hpool, List.mem_append] at hserial
      rw [hsize]
      rcases hserial with hold | hnew
      · exact Nat.lt_add_right _ (hs.made serial hold)
      · exact (List.mem_range'_1.mp hnew).2
    · rw [hpool, htarget, List.length_append, List.length_range']
      omega
  | givenUp hmem hsurplus hpool hsize htarget =>
    refine ⟨hpool ▸ hs.nodup.erase _, fun serial hserial => ?_, ?_⟩
    · rw [hpool] at hserial
      rw [hsize]
      exact hs.made serial (List.mem_of_mem_erase hserial)
    · have hindex := List.idxOf_lt_length_of_mem hmem
      rw [hpool, htarget, List.length_erase_of_mem hmem]
      omega

omit [Scalar α] [RandomSource ρ] in
/-- The pool grows no further than to the target. -/
theorem PoolStep.length_le {action : Action α} (h : PoolStep slot action slot') :
    slot'.pool.length ≤ max slot.pool.length action.target := by
  cases h with
  | kept hpool hsize htarget =>
    rw [hpool]
    exact Nat.le_max_left ..
  | @grown s count _ hpool hsize htarget =>
    show _ ≤ max slot.pool.length count
    rw [hpool, List.length_append, List.length_range']
    omega
  | givenUp hmem hsurplus hpool hsize htarget =>
    rw [hpool, List.length_erase_of_mem hmem]
    omega

omit [Scalar α] [RandomSource ρ] in
/-- A vehicle that was created and is not in use any more is not used again. -/
theorem PoolStep.stays_out {action : Action α} (h : PoolStep slot action slot') {serial : Nat}
    (hmade : serial < slot.vehicles.size) (hout : serial ∉ slot.pool) :
    serial < slot'.vehicles.size ∧ serial ∉ slot'.pool := by
  cases h with
  | kept hpool hsize htarget => exact ⟨hsize ▸ hmade, hpool ▸ hout⟩
  | grown hpool hsize htarget =>
    refine ⟨by omega, ?_⟩
    rw [hpool, List.mem_append, not_or]
    refine ⟨hout, fun hnew => ?_⟩
    have hle := (List.mem_range'_1.mp hnew).1
    omega
  | givenUp hmem hsurplus hpool hsize htarget =>
    exact ⟨hsize ▸ hmade, fun hserial => hout (List.mem_of_mem_erase (hpool ▸ hserial))⟩

/-! ## What all actions keep -/

variable {actions : List (Action α)}

theorem Acted.pooled (h : Acted slot actions slot') (hs : slot.Pooled) : slot'.Pooled := by
  induction h with
  | done => exact hs
  | next hact _ ih => exact ih ((act_poolStep hact).pooled hs)

theorem Acted.length_le (h : Acted slot actions slot') :
    slot'.pool.length ≤ max slot.pool.length (largestTarget actions) := by
  induction h with
  | done => exact Nat.le_max_left ..
  | @next slot between slot' action rest hact _ ih =>
    have hstep := (act_poolStep hact).length_le
    have hlargest : largestTarget (action :: rest) = max action.target (largestTarget rest) := rfl
    omega

theorem Acted.stays_out (h : Acted slot actions slot') {serial : Nat}
    (hmade : serial < slot.vehicles.size) (hout : serial ∉ slot.pool) : serial ∉ slot'.pool := by
  induction h with
  | done => exact hout
  | next hact _ ih =>
    obtain ⟨hmade, hout⟩ := (act_poolStep hact).stays_out hmade hout
    exact ih hmade hout

omit [RandomSource ρ] in
/-- Who is not in use may not be placed, and nothing is given up for that. -/
theorem canPlace_of_out {id : VehicleId} (hout : id.serial ∉ slot.pool) (point : PointId) :
    slot.canPlace m s id point = pure (false, slot) := by
  unfold canPlace
  rw [if_pos (Or.inr hout)]

/-- **Pool discipline.** In a slot that began without vehicles, whatever was done to it: the
vehicles in use differ, and there are at least as many as the slot should have and no more than the
largest target it was given. A new target takes none of them away and changes none. A vehicle that
is tried for a point leaves the slot as it is; or it is in use, at or behind the target, and is
given up: then it is off the road, the others are as they were and in their order, and it is not
admitted, now or whatever is done to the slot later. -/
theorem pool_of_acted {key : SlotKey} {model skin : String} {mode : ControlMode}
    {settings : Settings α} {seed : UInt64}
    (h : Acted (new key model skin mode settings seed : Slot α ρ) actions slot) :
    slot.pool.Nodup ∧ slot.target ≤ slot.pool.length ∧
      slot.pool.length ≤ largestTarget actions ∧
      (∀ s count (slot' : Slot α ρ), Answers (slot.setTarget s count) slot' →
        slot.pool <+: slot'.pool ∧
        ∀ (serial : Nat) v, slot.vehicles[serial]? = some v → slot'.vehicles[serial]? = some v) ∧
      ∀ m s id point admitted (slot' : Slot α ρ),
        Answers (slot.canPlace m s id point) (admitted, slot') →
        slot' = slot ∨
        (id.slot = slot.key ∧ id.serial ∈ slot.pool ∧
          slot.target ≤ slot.pool.idxOf id.serial ∧ slot'.pool = slot.pool.erase id.serial ∧
          (∃ v, slot'.vehicles[id.serial]? = some v ∧ v.placed = false) ∧
          (∀ serial : Nat, serial ≠ id.serial → slot'.vehicles[serial]? = slot.vehicles[serial]?) ∧
          admitted = false ∧
          ∀ later (slot'' : Slot α ρ), Acted slot' later slot'' → ∀ m s point,
            slot''.canPlace m s id point = pure (false, slot'')) := by
  have hpooled := h.pooled new_pooled
  refine ⟨hpooled.nodup, hpooled.target_le, ?_, fun s count slot' htarget => ?_,
    fun m s id point admitted slot' htry => ?_⟩
  · have hlength := h.length_le
    rwa [show (new key model skin mode settings seed : Slot α ρ).pool.length = 0 from rfl,
      Nat.zero_max] at hlength
  · obtain ⟨new, random, -, -, rfl⟩ := setTarget_changes htarget
    refine ⟨List.prefix_append .., fun serial v hv => ?_⟩
    have hmade : serial < slot.vehicles.size := (Array.getElem?_eq_some_iff.mp hv).1
    exact (Array.getElem?_append_left hmade).trans hv
  · rcases canPlace_cases htry with ⟨hslot, -⟩ | ⟨hrefused, hkey, hmem, hsurplus, rfl⟩
    · exact Or.inl hslot
    have hmade := hpooled.made id.serial hmem
    have hvehicles := getElem?_removeFromRoad slot [id.serial]
    refine Or.inr ⟨hkey, hmem, hsurplus, rfl, ?_, fun serial hne => ?_, hrefused,
      fun later slot'' hlater m s point => ?_⟩
    · refine ⟨slot.vehicles[id.serial].remove, ?_, rfl⟩
      exact (hvehicles id.serial).trans
        (by rw [if_pos (List.mem_singleton_self _), Array.getElem?_eq_getElem hmade]; rfl)
    · exact (hvehicles serial).trans (if_neg (by simpa using hne))
    · -- its serial number was in use once, and the pool has it no more
      refine canPlace_of_out (hlater.stays_out ?_ hpooled.nodup.not_mem_erase) point
      exact Nat.lt_of_lt_of_eq hmade (removeFromRoad_size ..).symm

/-! A slot that should have three vehicles, one of which appears, and then only one. -/

private def emptySlot : Slot Rat (Tape fun _ _ => 0) :=
  new (SlotKey.nth 0) "car" "" .traffic .standard 0

private def fewerVehicles : List (Action Rat) :=
  [.setTarget .standard 3, .place sideBySide .standard 2 ⟨0⟩ 0 true, .setTarget .standard 1]

private theorem fewerVehicles_done : ((fewerVehicles.foldlM act emptySlot) #[]).1.isOk = true := by
  decide +kernel

/-- The slot with two vehicles too many. -/
private def fullSlot : Slot Rat (Tape fun _ _ => 0) := answerOf _ fewerVehicles_done

private theorem lastTried :
    (fullSlot.canPlace sideBySide .standard ⟨SlotKey.nth 0, 2⟩ ⟨1⟩ #[]).1.isOk = true := by
  decide +kernel

/-- The slot after its last vehicle was tried for a point. -/
private def triedSlot : Slot Rat (Tape fun _ _ => 0) := (answerOf _ lastTried).2

/-- All three vehicles are still in use, and one of them is on the road. When that one is tried for
another point it is given up, and is not admitted anywhere any more. -/
theorem pool_of_acted_shrinking :
    Acted emptySlot fewerVehicles fullSlot ∧
      fullSlot.pool = [0, 1, 2] ∧ fullSlot.placed.length = 1 ∧ fullSlot.target = 1 ∧
      triedSlot.pool = [0, 1] ∧ (∃ v, triedSlot.vehicles[2]? = some v ∧ v.placed = false) ∧
      ∀ point, triedSlot.canPlace sideBySide .standard ⟨SlotKey.nth 0, 2⟩ point =
        pure (false, triedSlot) := by
  have hacted := acted_of_foldlM (answers_answerOf fewerVehicles_done)
  have hpool : triedSlot.pool = [0, 1] := by decide +kernel
  obtain ⟨-, -, -, -, htried⟩ := pool_of_acted hacted
  rcases htried _ _ _ _ _ triedSlot (answers_answerOf lastTried) with hsame |
    ⟨-, -, -, -, hgone, -, -, hnever⟩
  · have hdiffers : triedSlot.pool ≠ fullSlot.pool := by decide +kernel
    exact absurd (congrArg pool hsame) hdiffers
  · exact ⟨hacted, by decide +kernel, by decide +kernel, by decide +kernel, hpool, hgone,
      fun point => hnever [] triedSlot .done sideBySide .standard point⟩

end Slot

end RoadTraffic
