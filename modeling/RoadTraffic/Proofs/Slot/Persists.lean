import RoadTraffic.Proofs.Vehicle.Profile
import RoadTraffic.Slot.Basic

/-!
# What the motion of its vehicles leaves of a slot

`Persists old new` says that a slot has kept all that the distribution of vehicles reads: its key,
its profile, who may drive it and who does, its player and its target; and that its vehicles, if
they all drove with the profile of the slot, still do. Everything that happens to the vehicles alone
persists in this sense: moving, choosing target speeds, being taken off the road, being tried for a
place.
-/

namespace RoadTraffic

namespace Slot

variable {α ρ : Type}

/-- All vehicles that the slot ever had drive with its profile. -/
def Uniform (slot : Slot α ρ) : Prop := ∀ v ∈ slot.vehicles, v.profile = slot.profile

/-- The slot is the same but for its vehicles. -/
structure Persists (old new : Slot α ρ) : Prop where
  key : new.key = old.key
  mode : new.mode = old.mode
  profile : new.profile = old.profile
  byTraffic : new.byTraffic = old.byTraffic
  player : new.player = old.player
  target : new.target = old.target
  uniform : old.Uniform → new.Uniform

variable {slot slot' slot'' : Slot α ρ}

theorem Persists.refl : slot.Persists slot := ⟨rfl, rfl, rfl, rfl, rfl, rfl, fun h => h⟩

theorem Persists.trans (h : slot.Persists slot') (h' : slot'.Persists slot'') :
    slot.Persists slot'' where
  key := h'.key.trans h.key
  mode := h'.mode.trans h.mode
  profile := h'.profile.trans h.profile
  byTraffic := h'.byTraffic.trans h.byTraffic
  player := h'.player.trans h.player
  target := h'.target.trans h.target
  uniform hu := h'.uniform (h.uniform hu)

/-- A vehicle may be put in the place of one that drove with the same profile. -/
theorem store_persists {serial : Nat} {v v' : Vehicle α ρ} (hv : slot.vehicles[serial]? = some v)
    (hprofile : v'.profile = v.profile) : slot.Persists (slot.store serial v') where
  key := rfl
  mode := rfl
  profile := rfl
  byTraffic := rfl
  player := rfl
  target := rfl
  uniform hu := by
    intro u hu'
    rcases Array.mem_or_eq_of_mem_setIfInBounds hu' with hold | rfl
    · exact hu u hold
    · exact hprofile.trans (hu v (Array.mem_of_getElem? hv))

variable [Scalar α]

/-- What becomes of the vehicle at one place when some are taken off the road. -/
private theorem getElem?_foldl_remove {serials : List Nat} {vehicles : Array (Vehicle α ρ)}
    {i : Nat} :
    (serials.foldl (fun vs serial => vs.modify serial (·.remove)) vehicles)[i]? =
      if i ∈ serials then vehicles[i]?.map (·.remove) else vehicles[i]? := by
  induction serials generalizing vehicles with
  | nil => rfl
  | cons serial rest ih =>
    rw [List.foldl_cons, ih, Array.getElem?_modify]
    -- a place may be named more than once; taking off the road twice is taking off once
    by_cases hserial : serial = i
    · subst hserial
      rw [if_pos rfl, if_pos (List.mem_cons_self ..)]
      split
      · cases vehicles[serial]? with
        | none => rfl
        | some v => rfl
      · rfl
    · rw [if_neg hserial]
      by_cases hrest : i ∈ rest
      · rw [if_pos hrest, if_pos (List.mem_cons_of_mem _ hrest)]
      · rw [if_neg hrest, if_neg]
        intro hmem
        rcases List.mem_cons.mp hmem with rfl | hmem
        · exact hserial rfl
        · exact hrest hmem

/-- The vehicles that are not named stay as they are. -/
theorem getElem?_removeFromRoad (slot : Slot α ρ) (serials : List Nat) (i : Nat) :
    (slot.removeFromRoad serials).vehicles[i]? =
      if i ∈ serials then slot.vehicles[i]?.map (·.remove) else slot.vehicles[i]? :=
  getElem?_foldl_remove

theorem removeFromRoad_persists {serials : List Nat} :
    slot.Persists (slot.removeFromRoad serials) where
  key := rfl
  mode := rfl
  profile := rfl
  byTraffic := rfl
  player := rfl
  target := rfl
  uniform hu := by
    intro v hv
    -- the vehicle at each place is the same one, on the road or not
    obtain ⟨i, hi⟩ := Array.getElem?_of_mem hv
    rw [getElem?_removeFromRoad] at hi
    split at hi
    · obtain ⟨u, hu', rfl⟩ := Option.map_eq_some_iff.mp hi
      exact hu u (Array.mem_of_getElem? hu')
    · exact hu v (Array.mem_of_getElem? hi)

variable {m : RoadMap α} {s : Settings α}

/-- The serial numbers of the vehicles that are in conflict with an earlier one. -/
def unsafeSerials (m : RoadMap α) (s : Settings α) (slot : Slot α ρ) : List Nat :=
  (conflicting (fun a b => tooClose m s a.2 b.2) slot.placed).map (·.1)

/-- Whatever the journal holds, the vehicles that are named are taken off the road and counted. If
there are none, nothing is noted either. -/
theorem removeUnsafe_apply (m : RoadMap α) (s : Settings α) (slot : Slot α ρ)
    (journal : Journal α) :
    ∃ after, slot.removeUnsafe m s journal = (.ok ((slot.unsafeSerials m s).length,
        slot.removeFromRoad (slot.unsafeSerials m s)), after) ∧
      (slot.unsafeSerials m s = [] → after = journal) := by
  unfold removeUnsafe unsafeSerials
  dsimp only
  rw [List.length_map]
  split
  · next hsome =>
    refine ⟨_, rfl, fun hnone => ?_⟩
    rw [List.map_eq_nil_iff.mp hnone] at hsome
    cases hsome
  · exact ⟨journal, rfl, fun _ => rfl⟩

theorem removeUnsafe_faultless (m : RoadMap α) (s : Settings α) (slot : Slot α ρ) :
    Faultless (slot.removeUnsafe m s) :=
  ⟨_, fun journal => (removeUnsafe_apply m s slot journal).imp fun _ happly => happly.1⟩

/-- Of the vehicles of a slot, those are taken off the road that are in conflict with an earlier
one. -/
theorem removeUnsafe_eq {count : Nat} (h : Answers (slot.removeUnsafe m s) (count, slot')) :
    slot' = slot.removeFromRoad (slot.unsafeSerials m s) := by
  obtain ⟨before, after, h⟩ := h
  obtain ⟨_, happly, -⟩ := removeUnsafe_apply m s slot before
  rw [happly] at h
  cases h
  rfl

theorem removeUnsafe_persists {count : Nat}
    (h : Answers (slot.removeUnsafe m s) (count, slot')) : slot.Persists slot' := by
  rw [removeUnsafe_eq h]
  exact removeFromRoad_persists

/-- A vehicle that is tried for a place leaves its slot as it is, and if it is admitted it is one of
the slot's that the pool should have and that may appear there; or it is one that the pool should
not have any more, and is given up. -/
theorem canPlace_cases {id : VehicleId} {point : PointId} {admitted : Bool}
    (h : Answers (slot.canPlace m s id point) (admitted, slot')) :
    (slot' = slot ∧ (admitted = true → id.slot = slot.key ∧ id.serial ∈ slot.pool ∧
      slot.pool.idxOf id.serial < slot.target ∧ slot.isCrowded m s id.serial point = false ∧
      slot.admitsLane m point = true)) ∨
    (admitted = false ∧ id.slot = slot.key ∧ id.serial ∈ slot.pool ∧
      slot.target ≤ slot.pool.idxOf id.serial ∧
      slot' = { slot.removeFromRoad [id.serial] with pool := slot.pool.erase id.serial }) := by
  unfold canPlace at h
  split at h
  · cases answers_pure h
    exact Or.inl ⟨rfl, fun hadmitted => nomatch hadmitted⟩
  · next hknown =>
    rw [not_or, not_not, not_not] at hknown
    obtain ⟨hkey, hpool⟩ := hknown
    split at h
    · next hsurplus =>
      obtain ⟨-, -, h⟩ := answers_bind h
      cases answers_pure h
      exact Or.inr ⟨rfl, hkey, hpool, hsurplus, rfl⟩
    · next hindex =>
      obtain ⟨-, -, h⟩ := answers_bind h
      obtain ⟨hadmitted, rfl⟩ := Prod.mk.inj (answers_pure h)
      refine Or.inl ⟨rfl, fun htrue => ?_⟩
      obtain ⟨hfree, hlane⟩ := Bool.and_eq_true_iff.mp (hadmitted.symm.trans htrue)
      exact ⟨hkey, hpool, Nat.lt_of_not_le hindex, by simpa using hfree, hlane⟩

/-- A vehicle that is admitted at a point is one in use of the slot, which is left as it is, and the
point is not crowded. -/
theorem canPlace_admitted {id : VehicleId} {point : PointId}
    (h : Answers (slot.canPlace m s id point) (true, slot')) :
    slot' = slot ∧ id.slot = slot.key ∧ id.serial ∈ slot.pool ∧
      slot.isCrowded m s id.serial point = false := by
  rcases canPlace_cases h with ⟨hslot, hadmitted⟩ | ⟨hrefused, -⟩
  · obtain ⟨hkey, hpool, -, hfree, -⟩ := hadmitted rfl
    exact ⟨hslot, hkey, hpool, hfree⟩
  · cases hrefused

/-- A vehicle that is tried for a place is taken off the road at most. -/
theorem canPlace_persists {id : VehicleId} {point : PointId} {admitted : Bool}
    (h : Answers (slot.canPlace m s id point) (admitted, slot')) : slot.Persists slot' := by
  rcases canPlace_cases h with ⟨rfl, -⟩ | ⟨-, -, -, -, rfl⟩
  · exact Persists.refl
  · exact ⟨rfl, rfl, rfl, rfl, rfl, rfl, removeFromRoad_persists.uniform⟩

variable [RandomSource ρ]

theorem updateEach_persists {now : Millis} {serials : List Nat} {outcome : Except DeadEnd Unit}
    (h : Answers (slot.updateEach m s now serials) (outcome, slot')) : slot.Persists slot' := by
  induction serials generalizing slot outcome with
  | nil =>
    cases answers_pure h
    exact Persists.refl
  | cons serial rest ih =>
    unfold updateEach at h
    split at h
    · exact ih h
    · next v hv =>
      obtain ⟨⟨moved, v'⟩, hmoved, h⟩ := answers_bind h
      -- the others move on also if this one has come to a dead end
      obtain ⟨⟨later, after⟩, hlater, h⟩ := answers_bind h
      cases answers_pure h
      exact (store_persists hv (Vehicle.update_profile hmoved)).trans (ih hlater)

theorem lookOut_persists {around : Surroundings α} {now : Millis}
    (h : Answers (slot.lookOut m s around now) slot') : slot.Persists slot' := by
  unfold lookOut at h
  refine answers_foldlM (P := slot.Persists) ?_ Persists.refl h
  intro serial hserial before after hbefore hstep
  split at hstep
  · rw [answers_pure hstep]
    exact hbefore
  · next v hv =>
    obtain ⟨v', hv', hstep⟩ := answers_bind hstep
    rw [answers_pure hstep]
    exact hbefore.trans (store_persists hv (Vehicle.lookOut_profile hv'))

end Slot

end RoadTraffic
