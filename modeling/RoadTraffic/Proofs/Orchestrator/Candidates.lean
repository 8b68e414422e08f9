import Mathlib.Data.List.Perm.Subperm
import RoadTraffic.Orchestrator.Spawn
import RoadTraffic.Proofs.Geometry.Exact
import RoadTraffic.Proofs.Slot.Pool
import RoadTraffic.Proofs.World.Store

/-!
# The candidates of a round

The vehicles that may be placed in a round of spawning are told when the round begins. They are
vehicles in use of slots that the traffic drives, each named once (`candidates_nodup`), and either
not on the road or out of all players' radius and no longer protected (`mem_candidates`,
`of_isRecyclable`). The radius is compared by squares; in exact arithmetic that is enough to find
everybody within it (`isNear_of_withinRadius`).
-/

namespace RoadTraffic

/-- Some of those that differ differ. -/
theorem nodup_of_subperm {β : Type} {l l' : List β} (h : l.Subperm l') (hl' : l'.Nodup) :
    l.Nodup := by
  obtain ⟨some, hperm, hsub⟩ := h
  exact hperm.nodup_iff.mp (hl'.sublist hsub)

namespace Session

variable {α ρ : Type} [Scalar α] {w : World α ρ} {s : Settings α} {now : Millis}

/-- The positions that the traffic is centred around. -/
def foci (w : World α ρ) (now : Millis) : List (Vec3 α) :=
  (w.activePlayers now).map fun p => p.2.focus w.settings.playerLead

theorem farthestFirst_perm {β : Type} (pairs : List (β × α)) :
    (farthestFirst pairs).Perm (pairs.map (·.1)) := (List.mergeSort_perm ..).map _

/-- A candidate is a vehicle in use of a slot that the traffic drives, and it is not on the road or
may be taken from where it is. -/
theorem mem_candidates {foci : List (Vec3 α)} {c : VehicleId}
    (h : c ∈ candidates s now (traffic w) foci) :
    ∃ slot ∈ w.trafficSlots, slot.key = c.slot ∧ c.serial ∈ slot.pool ∧
      ∃ v, slot.vehicles[c.serial]? = some v ∧ (v.placed = false ∨
        isRecyclable s now v (nearestSquared v.position foci) = true) := by
  rcases List.mem_append.mp h with hwaiting | hplaced
  · obtain ⟨slot, hslot, hc⟩ := List.mem_flatMap.mp hwaiting
    obtain ⟨⟨serial, v⟩, hv, rfl⟩ := List.mem_map.mp hc
    obtain ⟨hmember, hout⟩ := List.mem_filter.mp hv
    obtain ⟨hpool, hv⟩ := Slot.mem_members.mp hmember
    exact ⟨slot, hslot, rfl, hpool, v, hv, Or.inl (by simpa using hout)⟩
  · obtain ⟨⟨_, d⟩, hpair, rfl⟩ := List.mem_map.mp ((farthestFirst_perm _).mem_iff.mp hplaced)
    obtain ⟨⟨_, v, _⟩, hfree, heq⟩ := List.mem_map.mp hpair
    obtain ⟨hmeasured, hfree⟩ := List.mem_filter.mp hfree
    obtain ⟨⟨c', v'⟩, htraffic, hmeasured⟩ := List.mem_map.mp hmeasured
    obtain ⟨slot, hslot, hvehicle⟩ := List.mem_flatMap.mp htraffic
    cases heq
    cases hmeasured
    obtain ⟨⟨serial, _⟩, hv, hmade⟩ := List.mem_map.mp hvehicle
    cases hmade
    obtain ⟨hpool, hv, -⟩ := Slot.mem_placed.mp hv
    exact ⟨slot, hslot, rfl, hpool, v, hv, Or.inr hfree⟩

/-! ## Each is named once -/

/-- The vehicles in use that are chosen by how they are, slot by slot. -/
def chosen (choose : Vehicle α ρ → Bool) (w : World α ρ) : List VehicleId :=
  w.trafficSlots.flatMap fun slot =>
    (slot.members.filter (choose ·.2)).map fun member => ⟨slot.key, member.1⟩

omit [Scalar α] in
theorem mem_chosen {choose : Vehicle α ρ → Bool} {id : VehicleId} (h : id ∈ chosen choose w) :
    ∃ slot ∈ w.trafficSlots, slot.key = id.slot ∧
      ∃ v, slot.vehicles[id.serial]? = some v ∧ choose v = true := by
  obtain ⟨slot, hslot, hid⟩ := List.mem_flatMap.mp h
  obtain ⟨⟨serial, v⟩, hv, rfl⟩ := List.mem_map.mp hid
  obtain ⟨hmember, hchosen⟩ := List.mem_filter.mp hv
  exact ⟨slot, hslot, rfl, v, (Slot.mem_members.mp hmember).2, hchosen⟩

omit [Scalar α] in
theorem chosen_nodup (hkeys : w.keys.Nodup) (hpools : ∀ slot ∈ w.slots, slot.pool.Nodup)
    (choose : Vehicle α ρ → Bool) : (chosen choose w).Nodup := by
  have hdiffer : w.trafficSlots.Pairwise fun a b => a.key ≠ b.key :=
    (List.pairwise_map.mp hkeys).sublist List.filter_sublist
  refine List.nodup_flatMap.mpr ⟨fun slot hslot => ?_, hdiffer.imp fun hne => ?_⟩
  · -- the serial numbers of a slot differ, and the key is the same for all of them
    have hpool := hpools slot (Array.mem_toList_iff.mp (List.mem_filter.mp hslot).1)
    have hserials := hpool.sublist
      ((List.filter_sublist (p := (choose ·.2)).map _).trans slot.members_sublist)
    have hids := hserials.map (f := fun serial => (⟨slot.key, serial⟩ : VehicleId))
      fun i j hij => congrArg VehicleId.serial hij
    rwa [List.map_map] at hids
  · intro id ha hb
    obtain ⟨_, -, rfl⟩ := List.mem_map.mp ha
    obtain ⟨_, -, heq⟩ := List.mem_map.mp hb
    exact hne (congrArg VehicleId.slot heq).symm

/-- The candidates are some of the vehicles off the road and some of those on it. -/
theorem candidates_subperm (foci : List (Vec3 α)) :
    (candidates s now (traffic w) foci).Subperm
      (chosen (!·.placed) w ++ chosen (·.placed) w) := by
  have hplaced : (traffic w).placed.map (·.1) = chosen (·.placed) w := by
    unfold traffic chosen
    rw [List.map_flatMap]
    exact List.flatMap_congr fun slot _ => List.map_map
  refine List.Subperm.append (List.Subperm.refl _) ((farthestFirst_perm _).subperm.trans ?_)
  rw [← hplaced, List.map_map]
  refine ((List.filter_sublist.map _).subperm).trans ?_
  rw [List.map_map]
  exact List.Subperm.refl _

/-- Each candidate is named once. -/
theorem candidates_nodup (hkeys : w.keys.Nodup) (hpools : ∀ slot ∈ w.slots, slot.pool.Nodup)
    (foci : List (Vec3 α)) : (candidates s now (traffic w) foci).Nodup := by
  refine nodup_of_subperm (candidates_subperm foci) ?_
  refine (chosen_nodup hkeys hpools _).append (chosen_nodup hkeys hpools _) ?_
  intro id hwaiting hplaced
  obtain ⟨slot, hslot, hkey, v, hv, hout⟩ := mem_chosen hwaiting
  obtain ⟨slot', hslot', hkey', v', hv', hon⟩ := mem_chosen hplaced
  -- the identifier finds one vehicle only
  obtain rfl := World.slot?_eq_of_mem hkeys
    (World.slot?_of_mem hkeys (Array.mem_toList_iff.mp (List.mem_filter.mp hslot).1))
    (Array.mem_toList_iff.mp (List.mem_filter.mp hslot').1) (hkey'.trans hkey.symm)
  rw [hv] at hv'
  cases hv'
  rw [hon] at hout
  cases hout

/-! ## Who is left where it is -/

/-- The position is within the players' radius of one of the foci. Squares are compared. -/
def IsNear (s : Settings α) (foci : List (Vec3 α)) (position : Vec3 α) : Prop :=
  ∃ focus ∈ foci, position.distanceSquared focus ≤ s.playerRadius * s.playerRadius

instance {foci : List (Vec3 α)} {position : Vec3 α} : Decidable (IsNear s foci position) :=
  inferInstanceAs (Decidable (∃ focus ∈ foci, _ ≤ _))

/-- The nearest of some positions is no farther than any of them. -/
theorem nearestSquared_le [OrderedScalar α] {position other : Vec3 α} {others : List (Vec3 α)}
    {bound : α} (hother : other ∈ others) (h : position.distanceSquared other ≤ bound) :
    nearestSquared position others ≤ bound := by
  unfold nearestSquared
  -- once the least distance so far is below the bound, it stays there
  have hstays : ∀ (rest : List (Vec3 α)) (least : α), least ≤ bound →
      rest.foldl (fun least other => Scalar.min least (position.distanceSquared other)) least ≤
        bound := by
    intro rest
    induction rest with
    | nil => exact fun least hleast => hleast
    | cons other rest ih => exact fun least hleast => ih _ (OrderedScalar.min_le (Or.inl hleast))
  obtain ⟨before, after, rfl⟩ := List.append_of_mem hother
  rw [List.foldl_append, List.foldl_cons]
  exact hstays after _ (OrderedScalar.min_le (Or.inr h))

/-- Whoever may be taken from where it is is near no player and not protected any more. -/
theorem of_isRecyclable [OrderedScalar α] {foci : List (Vec3 α)} {v : Vehicle α ρ}
    (h : isRecyclable s now v (nearestSquared v.position foci) = true) :
    ¬ IsNear s foci v.position ∧ v.protectedUntil < now := by
  obtain ⟨hfar, hprotected⟩ := Bool.and_eq_true_iff.mp h
  refine ⟨fun ⟨focus, hfocus, hnear⟩ => ?_, of_decide_eq_true hprotected⟩
  have hlt := (OrderedScalar.lt_iff _ _).mp (of_decide_eq_true hfar)
  exact hlt.2 (nearestSquared_le hfocus hnear)

/-- Whoever is a candidate is found by its identifier, in a slot that the traffic drives. It is not
on the road, or it is near no player and not protected any more. -/
theorem candidate_free [OrderedScalar α] (hkeys : w.keys.Nodup) {foci : List (Vec3 α)}
    {c : VehicleId} (h : c ∈ candidates s now (traffic w) foci) :
    ∃ slot, w.slot? c.slot = some slot ∧ slot.byTraffic = true ∧
      ∃ v, slot.vehicles[c.serial]? = some v ∧ (v.placed = false ∨
        ¬ IsNear s foci v.position ∧ v.protectedUntil < now) := by
  obtain ⟨slot, hslot, hkey, -, v, hv, hfree⟩ := mem_candidates h
  obtain ⟨hmem, htraffic⟩ := List.mem_filter.mp hslot
  have hfound := World.slot?_of_mem hkeys (Array.mem_toList_iff.mp hmem)
  rw [hkey] at hfound
  exact ⟨slot, hfound, htraffic, v, hv, hfree.imp id of_isRecyclable⟩

/-- The position is no farther from one of the foci than the players' radius. -/
def WithinRadius (s : Settings α) (foci : List (Vec3 α)) (position : Vec3 α) : Prop :=
  ∃ focus ∈ foci, position.distance focus ≤ s.playerRadius

instance {foci : List (Vec3 α)} {position : Vec3 α} : Decidable (WithinRadius s foci position) :=
  inferInstanceAs (Decidable (∃ focus ∈ foci, _ ≤ _))

/-- In exact arithmetic, and with a radius that is not below zero, whoever is within it is near. -/
theorem isNear_of_withinRadius {K : Type} [Field K] [LinearOrder K] [IsStrictOrderedRing K]
    [Scalar K] [ExactScalar K] {s : Settings K} {foci : List (Vec3 K)} {position : Vec3 K}
    (hradius : 0 ≤ s.playerRadius) (h : WithinRadius s foci position) :
    IsNear s foci position := by
  obtain ⟨focus, hfocus, hdistance⟩ := h
  refine ⟨focus, hfocus, ?_⟩
  rw [ExactScalar.scalar_le_iff] at hdistance
  rw [ExactScalar.scalar_le_iff, ExactScalar.scalar_mul_eq]
  exact Vec3.distanceSquared_le hradius hdistance

end Session

end RoadTraffic
