import RoadTraffic.Proofs.Geometry.Exact
import RoadTraffic.Proofs.Slot.Pool

/-!
# Vehicles in conflict

Of the vehicles of a slot that are closer together than they may be and travel the same way, the
later ones in the order of the pool are taken off the road. Being in conflict is not transitive, and
a vehicle that has to go takes no other one with it: what is told of the search through a list
(`conflicting`) is that among those that stay no earlier one is in conflict with a later one
(`conflicting_spares`), and that whoever goes has an earlier one that stays to blame for it
(`conflicting_blames`). For the slot that means that enough vehicles are removed and none without
need, and that nothing is left to be done by a second call (`removeUnsafe_thins`).
-/

namespace RoadTraffic

namespace Slot

/-! ## The search through a list -/

section

variable {β : Type} {conflict : β → β → Bool} {l : List β} {x y : β}

/-- What holds of the list without members, and of a list if it holds of what its first member
leaves, holds of all lists. -/
@[elab_as_elim]
theorem conflicting_induction (conflict : β → β → Bool) {motive : List β → Prop}
    (nil : motive [])
    (cons : ∀ b rest, motive (rest.filter fun c => !conflict b c) → motive (b :: rest))
    (l : List β) : motive l := by
  -- what the first member leaves is no tail of the list, but it is shorter
  generalize hlength : l.length = n
  induction n using Nat.strongRecOn generalizing l with
  | ind n ih =>
    cases l with
    | nil => exact nil
    | cons b rest =>
      refine cons b rest (ih _ ?_ _ rfl)
      rw [← hlength]
      exact Nat.lt_succ_of_le (List.length_filter_le ..)

/-- Whoever goes is in the list, and goes once for each time he is in it at most. -/
theorem conflicting_subperm (conflict : β → β → Bool) (l : List β) :
    (conflicting conflict l).Subperm l := by
  induction l using conflicting_induction conflict with
  | nil =>
    unfold conflicting
    exact List.Subperm.refl []
  | cons b rest ih =>
    unfold conflicting
    have hsplit : (rest.filter (conflict b) ++ rest.filter fun c => !conflict b c).Perm rest :=
      List.filter_append_perm ..
    exact ((List.subperm_append_left _).mpr ih).trans
      (hsplit.subperm.trans (List.sublist_cons_self b rest).subperm)

/-- Of two members that both stay, the earlier one is not in conflict with the later one. -/
theorem conflicting_spares (hxy : [x, y].Sublist l) (hx : x ∉ conflicting conflict l)
    (hy : y ∉ conflicting conflict l) : conflict x y = false := by
  induction l using conflicting_induction conflict with
  | nil => cases hxy
  | cons b rest ih =>
    unfold conflicting at hx hy
    rw [List.mem_append, not_or] at hx hy
    have hstays : ∀ {z}, z ∈ rest → z ∉ rest.filter (conflict b) → conflict b z = false :=
      fun hz hout => Bool.eq_false_iff.mpr fun hc => hout (List.mem_filter.mpr ⟨hz, hc⟩)
    cases hxy with
    | cons_cons _ hyrest => exact hstays (List.singleton_sublist.mp hyrest) hy.1
    | cons _ hrest =>
      -- both are left over by the first member, and the search goes on among those
      refine ih ?_ hx.2 hy.2
      have hleft := hrest.filter fun c => !conflict b c
      rwa [List.filter_cons_of_pos, List.filter_cons_of_pos, List.filter_nil] at hleft
      · rw [hstays (hrest.subset (by simp)) hy.1]; rfl
      · rw [hstays (hrest.subset (by simp)) hx.1]; rfl

/-- Whoever goes is in conflict with an earlier member that stays. -/
theorem conflicting_blames (hl : l.Nodup) (hy : y ∈ conflicting conflict l) :
    ∃ x, x ∉ conflicting conflict l ∧ [x, y].Sublist l ∧ conflict x y = true := by
  induction l using conflicting_induction conflict with
  | nil =>
    unfold conflicting at hy
    cases hy
  | cons b rest ih =>
    obtain ⟨hb, hrest⟩ := List.nodup_cons.mp hl
    unfold conflicting at hy ⊢
    rcases List.mem_append.mp hy with hyb | hy
    · obtain ⟨hyrest, hconflict⟩ := List.mem_filter.mp hyb
      refine ⟨b, fun hgoes => hb ?_, (List.singleton_sublist.mpr hyrest).cons_cons b, hconflict⟩
      rcases List.mem_append.mp hgoes with hgoes | hgoes
      · exact (List.mem_filter.mp hgoes).1
      · exact (List.mem_filter.mp ((conflicting_subperm ..).subset hgoes)).1
    · obtain ⟨x, hx, hxy, hconflict⟩ := ih (hrest.filter _) hy
      have hkept := (List.mem_filter.mp (hxy.subset (List.mem_cons_self ..))).2
      refine ⟨x, fun hgoes => ?_, (hxy.trans List.filter_sublist).cons b, hconflict⟩
      rcases List.mem_append.mp hgoes with hgoes | hgoes
      · rw [(List.mem_filter.mp hgoes).2] at hkept
        cases hkept
      · exact hx hgoes

/-- Where no earlier member is in conflict with a later one, all stay. -/
theorem conflicting_eq_nil (h : l.Pairwise fun x y => conflict x y = false) :
    conflicting conflict l = [] := by
  induction l using conflicting_induction conflict with
  | nil =>
    unfold conflicting
    rfl
  | cons b rest ih =>
    obtain ⟨hb, hrest⟩ := List.pairwise_cons.mp h
    unfold conflicting
    rw [ih (hrest.filter _), List.append_nil, List.filter_eq_nil_iff]
    intro c hc
    rw [hb c hc]
    exact Bool.false_ne_true

end

/-! ## The removal from the road -/

section

variable {α ρ : Type} {slot : Slot α ρ}

/-- The vehicles on the road are named in the order of the pool. -/
theorem placed_sublist (slot : Slot α ρ) : (slot.placed.map (·.1)).Sublist slot.pool :=
  (List.filter_sublist.map _).trans (members_sublist slot)

variable [Scalar α] {m : RoadMap α} {s : Settings α}

/-- Who has not been taken off the road is still on it. -/
theorem placed_removeFromRoad (slot : Slot α ρ) (serials : List Nat) :
    (slot.removeFromRoad serials).placed = slot.placed.filter fun p => decide (p.1 ∉ serials) := by
  unfold placed members
  rw [List.filter_filter, List.filter_filterMap, List.filter_filterMap]
  refine List.filterMap_congr fun i _ => ?_
  rw [getElem?_removeFromRoad]
  cases slot.vehicles[i]? with
  | none => split <;> rfl
  | some v =>
    -- one who is taken off the road is not on it any more
    split
    · next hi => simp [Option.filter_some, Vehicle.remove, hi]
    · next hi => simp [Option.filter_some, hi]

theorem mem_placed_removeFromRoad {serials : List Nat} {p : Nat × Vehicle α ρ} :
    p ∈ (slot.removeFromRoad serials).placed ↔ p ∈ slot.placed ∧ p.1 ∉ serials := by
  rw [placed_removeFromRoad, List.mem_filter, decide_eq_true_eq]

/-- A vehicle on the road is named if it is found to be in conflict. -/
theorem mem_unsafeSerials {i : Nat} {a : Vehicle α ρ} (ha : (i, a) ∈ slot.placed) :
    i ∈ slot.unsafeSerials m s ↔
      (i, a) ∈ conflicting (fun a b => tooClose m s a.2 b.2) slot.placed := by
  refine ⟨fun h => ?_, List.mem_map_of_mem⟩
  obtain ⟨⟨_, b⟩, hb, rfl⟩ := List.mem_map.mp h
  -- one serial number stands for one vehicle
  have hvehicle := (mem_placed.mp ((conflicting_subperm ..).subset hb)).2.1
  rw [(mem_placed.mp ha).2.1] at hvehicle
  cases hvehicle
  exact hb

theorem unsafeSerials_nodup (hpool : slot.pool.Nodup) : (slot.unsafeSerials m s).Nodup := by
  obtain ⟨l, hperm, hsub⟩ :=
    conflicting_subperm (fun a b => tooClose m s a.2 b.2) slot.placed
  exact (hperm.map (·.1)).nodup_iff.mp
    (((hsub.map (·.1)).trans (placed_sublist slot)).nodup hpool)

/-- Of those that stay, no earlier one is too close to a later one. -/
theorem removeUnsafe_pairwise (m : RoadMap α) (s : Settings α) (slot : Slot α ρ) :
    (slot.removeFromRoad (slot.unsafeSerials m s)).placed.Pairwise
      fun a b => tooClose m s a.2 b.2 = false := by
  rw [List.pairwise_iff_forall_sublist]
  intro a b hab
  have hstays : ∀ c ∈ [a, b], c ∉ conflicting (fun a b => tooClose m s a.2 b.2) slot.placed := by
    intro c hc hgoes
    obtain ⟨hplaced, hout⟩ := mem_placed_removeFromRoad.mp (hab.subset hc)
    exact hout ((mem_unsafeSerials hplaced).mpr hgoes)
  have hplaced : [a, b].Sublist slot.placed := by
    rw [placed_removeFromRoad] at hab
    exact hab.trans List.filter_sublist
  have hfirst := hstays a (List.mem_cons_self ..)
  have hsecond := hstays b (List.mem_cons_of_mem a (List.mem_singleton_self b))
  have hspared := conflicting_spares hplaced hfirst hsecond
  exact hspared

/-- Whoever goes was on the road, and an earlier vehicle of the pool that stays is to blame. -/
theorem unsafeSerials_blames (hpool : slot.pool.Nodup) {j : Nat}
    (hj : j ∈ slot.unsafeSerials m s) :
    ∃ b, (j, b) ∈ slot.placed ∧
      ∃ i a, (i, a) ∈ (slot.removeFromRoad (slot.unsafeSerials m s)).placed ∧
        [i, j].Sublist slot.pool ∧ tooClose m s a b = true := by
  obtain ⟨⟨_, b⟩, hb, rfl⟩ := List.mem_map.mp hj
  have hnodup : slot.placed.Nodup := List.Nodup.of_map (·.1) ((placed_sublist slot).nodup hpool)
  obtain ⟨⟨i, a⟩, ha, hab, hconflict⟩ := conflicting_blames hnodup hb
  have hplaced : (i, a) ∈ slot.placed := hab.subset (List.mem_cons_self ..)
  refine ⟨b, (conflicting_subperm ..).subset hb, i, a, ?_,
    (hab.map Prod.fst).trans (placed_sublist slot), hconflict⟩
  exact mem_placed_removeFromRoad.mpr
    ⟨hplaced, fun hi => ha ((mem_unsafeSerials hplaced).mp hi)⟩

/-- Where no two vehicles are in conflict, none is named. -/
theorem unsafeSerials_eq_nil
    (h : slot.placed.Pairwise fun a b => tooClose m s a.2 b.2 = false) :
    slot.unsafeSerials m s = [] := by
  unfold unsafeSerials
  rw [conflicting_eq_nil h, List.map_nil]

end

/-! ## Enough and not too much -/

section

variable {α ρ : Type} [Scalar α] {m : RoadMap α} {s : Settings α} {slot : Slot α ρ}
  {a b : Vehicle α ρ}

/-- Two vehicles are closer together than the settings ask, which is found by comparing squares, and
travel the same way. -/
def Conflict (m : RoadMap α) (s : Settings α) (a b : Vehicle α ρ) : Prop :=
  a.position.distanceSquared b.position < s.minSpacing * s.minSpacing ∧
    m.sameDirection a.point b.point = true

theorem tooClose_iff : tooClose m s a b = true ↔ Conflict m s a b := by
  unfold tooClose Conflict
  rw [Bool.and_eq_true, decide_eq_true_eq]

/-- Where nothing is rounded, a comparison of squares is one of distances. -/
theorem conflict_iff [Field α] [LinearOrder α] [IsStrictOrderedRing α] [ExactScalar α]
    [RootedScalar α] (hspacing : 0 ≤ s.minSpacing) :
    Conflict m s a b ↔ a.position.distance b.position < s.minSpacing ∧
      m.sameDirection a.point b.point = true := by
  unfold Conflict
  rw [ExactScalar.scalar_lt_iff, ExactScalar.scalar_mul_eq, Vec3.distance_lt_iff hspacing]

/-- Removing unsafe vehicles always succeeds, and removes enough and not too much. No two vehicles
that are left on the road are in conflict. Whoever is taken off the road was on it, and an earlier
vehicle of the pool that is still on the road is in conflict with it. All else is as before, the
number is that of the vehicles taken off the road, and a second call finds nothing to do. In exact
arithmetic, those in conflict are closer together than the settings ask. -/
theorem removeUnsafe_thins (hpool : slot.pool.Nodup) :
    (∃ (removed : List Nat) (slot' : Slot α ρ),
      (∀ journal, ((slot.removeUnsafe m s) journal).1 = .ok (removed.length, slot')) ∧
      removed.Nodup ∧ slot' = { slot with vehicles := slot'.vehicles } ∧
      (∀ i, slot'.vehicles[i]? =
        if i ∈ removed then slot.vehicles[i]?.map (·.remove) else slot.vehicles[i]?) ∧
      (slot'.placed.Pairwise fun a b => ¬ Conflict m s a.2 b.2) ∧
      (∀ j ∈ removed, ∃ b, (j, b) ∈ slot.placed ∧ ∃ i a, (i, a) ∈ slot'.placed ∧
        [i, j].Sublist slot.pool ∧ Conflict m s a b) ∧
      ∀ journal, (slot'.removeUnsafe m s) journal = (.ok (0, slot'), journal)) ∧
    ∀ [Field α] [LinearOrder α] [IsStrictOrderedRing α] [ExactScalar α] [RootedScalar α],
      0 ≤ s.minSpacing → ∀ a b : Vehicle α ρ, Conflict m s a b ↔
        a.position.distance b.position < s.minSpacing ∧ m.sameDirection a.point b.point = true := by
  have hpairwise := removeUnsafe_pairwise m s slot
  refine ⟨⟨slot.unsafeSerials m s, slot.removeFromRoad (slot.unsafeSerials m s),
    fun journal => ?_, unsafeSerials_nodup hpool, rfl, getElem?_removeFromRoad slot _, ?_,
    fun j hj => ?_, fun journal => ?_⟩, fun hspacing a b => conflict_iff hspacing⟩
  · obtain ⟨after, happly, -⟩ := removeUnsafe_apply m s slot journal
    rw [happly]
  · refine hpairwise.imp fun hfar => ?_
    rw [← tooClose_iff, hfar]
    exact Bool.false_ne_true
  · obtain ⟨b, hb, i, a, ha, hij, hclose⟩ := unsafeSerials_blames hpool hj
    exact ⟨b, hb, i, a, ha, hij, tooClose_iff.mp hclose⟩
  · -- among those that are left there is no conflict, so that the second call names nobody
    obtain ⟨after, happly, hafter⟩ :=
      removeUnsafe_apply m s (slot.removeFromRoad (slot.unsafeSerials m s)) journal
    have hnone := unsafeSerials_eq_nil hpairwise
    rw [happly, hafter hnone, hnone]
    rfl

end

/-! Three vehicles in a row, each of them too close to the next one only. -/

/-- Settings that ask for 5 m between vehicles. -/
private def fiveMetres : Settings Rat := { Settings.standard with minSpacing := 5 }

/-- A vehicle on the first lane of the road, at a distance from where it begins. -/
private def vehicleAt (serial : Nat) (z : Rat) : Vehicle Rat (Tape fun _ _ => 0) :=
  { Vehicle.new ⟨SlotKey.nth 0, serial⟩ (fiveMetres.profileFor "car" "") fiveMetres 0 with
    placed := true
    status := { Status.unknown with position := ⟨0, 0, z⟩ } }

/-- A slot with vehicles at 0 m, 4 m and 8 m. -/
private def threeInARow : Slot Rat (Tape fun _ _ => 0) :=
  { new (SlotKey.nth 0) "car" "" .traffic fiveMetres 0 with
    vehicles := #[vehicleAt 0 0, vehicleAt 1 4, vehicleAt 2 8]
    pool := [0, 1, 2] }

/-- The second vehicle is in conflict with the first one; once it is to go, the third one may
stay. -/
private theorem threeInARow_unsafe : threeInARow.unsafeSerials sideBySide fiveMetres = [1] := by
  have hplaced : threeInARow.placed =
      [(0, vehicleAt 0 0), (1, vehicleAt 1 4), (2, vehicleAt 2 8)] := rfl
  have hnear : tooClose sideBySide fiveMetres (vehicleAt 0 0) (vehicleAt 1 4) = true := by
    decide +kernel
  have hfar : tooClose sideBySide fiveMetres (vehicleAt 0 0) (vehicleAt 2 8) = false := by
    decide +kernel
  unfold unsafeSerials
  rw [hplaced]
  simp [conflicting, hnear, hfar]

/-- Of three vehicles in a row, each too close to the next one, the second one is taken off the
road, and the third one stays although it was too close to that one. -/
theorem removeUnsafe_thins_of_three :
    threeInARow.pool.Nodup ∧ ∃ (removed : List Nat) (slot' : Slot Rat (Tape fun _ _ => 0)),
      (∀ journal, ((threeInARow.removeUnsafe sideBySide fiveMetres) journal).1 =
        .ok (removed.length, slot')) ∧
      removed.length = 1 ∧ slot'.placed.map (·.1) = [0, 2] ∧
      ∃ i a, (i, a) ∈ slot'.placed ∧ Conflict sideBySide fiveMetres a (vehicleAt 1 4) := by
  have hpool : threeInARow.pool.Nodup := by decide
  obtain ⟨⟨removed, slot', happly, -, -, hvehicles, -, hblames, -⟩, -⟩ :=
    removeUnsafe_thins (m := sideBySide) (s := fiveMetres) hpool
  refine ⟨hpool, removed, slot', happly, ?_⟩
  obtain ⟨after, happly', -⟩ := removeUnsafe_apply sideBySide fiveMetres threeInARow #[]
  have hanswer := happly #[]
  rw [happly', threeInARow_unsafe] at hanswer
  obtain ⟨hlength, rfl⟩ := Prod.mk.inj (Except.ok.inj hanswer)
  refine ⟨hlength.symm, by decide +kernel, ?_⟩
  have hgone : 1 ∈ removed := by
    by_contra hstays
    have hvehicle := hvehicles 1
    rw [if_neg hstays, getElem?_removeFromRoad] at hvehicle
    exact Bool.false_ne_true (congrArg Vehicle.placed (Option.some.inj hvehicle))
  obtain ⟨b, hb, i, a, ha, -, hconflict⟩ := hblames 1 hgone
  obtain rfl : vehicleAt 1 4 = b := Option.some.inj (mem_placed.mp hb).2.1
  exact ⟨i, a, ha, hconflict⟩

end Slot

end RoadTraffic
