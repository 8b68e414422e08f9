import RoadTraffic.Proofs.Orchestrator.Pools

/-!
# What appears in a tick

A vehicle that appears was in use all the time since the round began, and nothing happened to it
before it was placed and nothing afterwards: whoever is tried and not admitted is left alone or
given up for good, and whoever is placed is no candidate any more. So each appearance can be told by
the worlds at the beginning and at the end of the round alone (`Appears`, `Round.appears`), and
whatever does not appear is where it was or off the road (`Round.elsewhere`). `appearances_of_tick`
says so of a tick.
-/

namespace RoadTraffic

/-- A member behind another one can be erased without moving that one. -/
theorem idxOf_erase_of_lt {l : List Nat} {i j : Nat} (h : l.idxOf i < l.idxOf j) :
    (l.erase j).idxOf i = l.idxOf i := by
  induction l with
  | nil => rfl
  | cons k rest ih =>
    by_cases hkj : k = j
    · rw [hkj, List.idxOf_cons_self] at h
      exact absurd h (Nat.not_lt_zero _)
    · rw [List.erase_cons_tail (by simpa using hkj)]
      by_cases hki : k = i
      · rw [hki, List.idxOf_cons_self, List.idxOf_cons_self]
      · rw [List.idxOf_cons_ne _ hki, List.idxOf_cons_ne _ hkj] at h
        rw [List.idxOf_cons_ne _ hki, List.idxOf_cons_ne _ hki, ih (Nat.lt_of_succ_lt_succ h)]

/-- A vehicle is named by its slot and its serial number. -/
theorem VehicleId.eq_of {a b : VehicleId} (hslot : a.slot = b.slot)
    (hserial : a.serial = b.serial) : a = b := by
  cases a
  cases b
  cases hslot
  cases hserial
  rfl

namespace Slot

variable {α ρ : Type} {slot slot' slot'' : Slot α ρ} {serial : Nat}

/-- The vehicle is one of those that the slot should have. -/
def Wants (serial : Nat) (slot : Slot α ρ) : Prop :=
  serial ∈ slot.pool ∧ slot.pool.idxOf serial < slot.target

/-- The slot keeps all vehicles that it should have, and is the same but for its vehicles. -/
structure Trims (slot slot' : Slot α ρ) : Prop where
  persists : slot.Persists slot'
  wants : ∀ serial, slot.Wants serial → slot'.Wants serial

theorem Trims.refl : slot.Trims slot := ⟨.refl, fun _ h => h⟩

theorem Trims.trans (h : slot.Trims slot') (h' : slot'.Trims slot'') : slot.Trims slot'' :=
  ⟨h.persists.trans h'.persists, fun serial hserial => h'.wants serial (h.wants serial hserial)⟩

variable [Scalar α] {m : RoadMap α} {s : Settings α} {id : VehicleId} {point : PointId}
  {admitted : Bool}

/-- Whoever is admitted at a point is one of those that the slot should have, and the slot's car may
appear on the lane. -/
theorem canPlace_wants (h : Answers (slot.canPlace m s id point) (true, slot')) :
    id.serial ∈ slot.pool ∧ slot.pool.idxOf id.serial < slot.target ∧
      slot.admitsLane m point = true := by
  rcases canPlace_cases h with ⟨-, hadmitted⟩ | ⟨hrefused, -⟩
  · obtain ⟨-, hpool, hindex, -, hlane⟩ := hadmitted rfl
    exact ⟨hpool, hindex, hlane⟩
  · cases hrefused

/-- Whoever is given up is behind all that the slot should have. -/
theorem canPlace_trims (h : Answers (slot.canPlace m s id point) (admitted, slot')) :
    slot.Trims slot' := by
  refine ⟨canPlace_persists h, fun serial ⟨hmem, hindex⟩ => ?_⟩
  rcases canPlace_cases h with ⟨rfl, -⟩ | ⟨-, -, -, hsurplus, rfl⟩
  · exact ⟨hmem, hindex⟩
  · have hne : serial ≠ id.serial := by
      rintro rfl
      omega
    refine ⟨(List.mem_erase_of_ne hne).mpr hmem, ?_⟩
    show (slot.pool.erase id.serial).idxOf serial < slot.target
    rw [idxOf_erase_of_lt (by omega)]
    exact hindex

omit [Scalar α] in
theorem store_trims {v v' : Vehicle α ρ} (hv : slot.vehicles[serial]? = some v)
    (hprofile : v'.profile = v.profile) : slot.Trims (slot.store serial v') :=
  ⟨store_persists hv hprofile, fun _ h => h⟩

end Slot

namespace World

variable {α ρ : Type} [Scalar α] {w : World α ρ} {slot slot' : Slot α ρ} {c id : VehicleId}
  {point : PointId} {admitted : Bool}

/-! ## One step and one vehicle -/

/-- Who is tried for a point costs no other vehicle anything. -/
theorem tried_leaves (hslot : w.slot? c.slot = some slot)
    (htry : Answers (slot.canPlace w.map w.settings c point) (admitted, slot')) (hid : id ≠ c) :
    w.Leaves id (w.store slot') := by
  rcases Slot.canPlace_cases htry with ⟨rfl, -⟩ | ⟨-, hkey, -, -, rfl⟩
  · rw [store_self hslot]
    exact .refl
  · refine leaves_store hslot rfl fun hsame => ?_
    have hne : id.serial ≠ c.serial := fun hserial =>
      hid (VehicleId.eq_of (hsame.trans hkey.symm) hserial)
    refine ⟨?_, List.mem_erase_of_ne hne⟩
    exact (Slot.getElem?_removeFromRoad slot [c.serial] id.serial).trans
      (if_neg (by simpa using hne))

/-- And if it is still in use afterwards, then itself nothing either. -/
theorem tried_leaves_of_inUse (hpool : slot.pool.Nodup) (hslot : w.slot? c.slot = some slot)
    (htry : Answers (slot.canPlace w.map w.settings c point) (admitted, slot'))
    (hid : (w.store slot').InUse id) : w.Leaves id (w.store slot') := by
  by_cases hc : id = c
  · subst hc
    rcases Slot.canPlace_cases htry with ⟨rfl, -⟩ | ⟨-, hkey, -, -, rfl⟩
    · rw [store_self hslot]
      exact .refl
    · have hsame : { slot.removeFromRoad [id.serial] with
          pool := slot.pool.erase id.serial }.key = slot.key := rfl
      have hfound := slot?_store hslot hsame id.slot
      rw [if_pos hkey] at hfound
      exact absurd ((inUse_iff hfound).mp hid) hpool.not_mem_erase
  · exact tried_leaves hslot htry hc

/-- Who is tried for a point stays as it is or is taken off the road. -/
theorem tried_vehicle (hslot : w.slot? c.slot = some slot)
    (htry : Answers (slot.canPlace w.map w.settings c point) (admitted, slot')) (id : VehicleId) :
    (w.store slot').vehicle? id = w.vehicle? id ∨
      (w.store slot').vehicle? id = (w.vehicle? id).map (·.remove) := by
  by_cases hid : id = c
  · subst hid
    rcases Slot.canPlace_cases htry with ⟨rfl, -⟩ | ⟨-, hkey, -, -, rfl⟩
    · rw [store_self hslot]
      exact Or.inl rfl
    · have hsame : { slot.removeFromRoad [id.serial] with
          pool := slot.pool.erase id.serial }.key = slot.key := rfl
      have hfound := slot?_store hslot hsame id.slot
      rw [if_pos hkey] at hfound
      rw [vehicle?_eq hfound, vehicle?_eq hslot]
      exact Or.inr ((Slot.getElem?_removeFromRoad slot [id.serial] id.serial).trans
        (if_pos (List.mem_singleton_self _)))
  · exact Or.inl (tried_leaves hslot htry hid).vehicle

omit [Scalar α] in
/-- Who is put in the place of a vehicle changes no other one. -/
theorem placed_leaves {v : Vehicle α ρ} (hslot : w.slot? c.slot = some slot) (hid : id ≠ c) :
    w.Leaves id (w.store (slot.store c.serial v)) := by
  refine leaves_store hslot rfl fun hsame => ⟨?_, Iff.rfl⟩
  refine Array.getElem?_setIfInBounds_ne fun hserial => hid ?_
  exact VehicleId.eq_of (hsame.trans (slot?_split hslot).1) hserial.symm

omit [Scalar α] in
/-- Where a slot is put back that keeps all vehicles that it should have, all slots keep theirs. -/
theorem trims_store {key other : SlotKey} {before after : Slot α ρ}
    (hbefore : w.slot? other = some before) (htrims : before.Trims after)
    (hslot : w.slot? key = some slot) :
    ∃ slot', (w.store after).slot? key = some slot' ∧ slot.Trims slot' := by
  rw [slot?_store hbefore htrims.persists.key key]
  split
  · next hkey =>
    rw [hkey, (slot?_split hbefore).1, hbefore] at hslot
    cases hslot
    exact ⟨after, rfl, htrims⟩
  · exact ⟨slot, hslot, .refl⟩

end World

namespace Session

variable {α ρ : Type} [Scalar α] [RandomSource ρ] {now : Millis} {w w' : World α ρ}

/-! ## A round and one vehicle -/

section

variable {candidates : List VehicleId} {appearances : List (Appearance α)} {id : VehicleId}

/-- Whoever is no candidate is left alone. -/
theorem Round.leaves (h : Round now w candidates appearances w') (hid : id ∉ candidates) :
    w.Leaves id w' := by
  induction h with
  | done => exact .refl
  | tried hmem hslot htry _ ih =>
    have hne := ne_of_mem_of_not_mem hmem hid
    exact (World.tried_leaves hslot htry hne.symm).trans (ih hid)
  | placed hmem hslot hadmitted hnext hv hplace _ ih =>
    have hne := ne_of_mem_of_not_mem hmem hid
    exact (World.placed_leaves hslot hne.symm).trans
      (ih fun hleft => hid (List.mem_of_mem_erase hleft))

/-- Whoever does not appear is where it was or off the road. -/
theorem Round.elsewhere (h : Round now w candidates appearances w')
    (hid : ∀ a ∈ appearances, a.vehicle ≠ id) :
    w'.vehicle? id = w.vehicle? id ∨ w'.vehicle? id = (w.vehicle? id).map (·.remove) := by
  induction h with
  | done => exact Or.inl rfl
  | tried hmem hslot htry _ ih =>
    have hlater := ih hid
    rcases World.tried_vehicle hslot htry id with hsame | hremoved
    · rwa [hsame] at hlater
    · rw [hremoved, Option.map_map] at hlater
      exact Or.inr (hlater.elim (fun h => h) fun h => h)
  | placed hmem hslot hadmitted hnext hv hplace _ ih =>
    have hne := hid _ (List.mem_cons_self ..)
    have hlater := ih fun a ha => hid a (List.mem_cons_of_mem _ ha)
    rwa [(World.placed_leaves hslot hne.symm).vehicle] at hlater

/-- Slots keep all vehicles that they should have. -/
theorem Round.trims (h : Round now w candidates appearances w') {key : SlotKey} {slot : Slot α ρ}
    (hslot : w.slot? key = some slot) : ∃ slot', w'.slot? key = some slot' ∧ slot.Trims slot' := by
  induction h generalizing slot with
  | done => exact ⟨slot, hslot, .refl⟩
  | tried hmem hfound htry _ ih =>
    obtain ⟨between, hbetween, hfirst⟩ := World.trims_store hfound (Slot.canPlace_trims htry) hslot
    obtain ⟨slot', hslot', hlater⟩ := ih hbetween
    exact ⟨slot', hslot', hfirst.trans hlater⟩
  | placed hmem hfound hadmitted hnext hv hplace _ ih =>
    obtain ⟨between, hbetween, hfirst⟩ :=
      World.trims_store hfound (Slot.store_trims hv (Vehicle.place_profile hplace)) hslot
    obtain ⟨slot', hslot', hlater⟩ := ih hbetween
    exact ⟨slot', hslot', hfirst.trans hlater⟩

/-- Whoever appears was a candidate, and appears once. -/
theorem Round.vehicles (h : Round now w candidates appearances w') (hnodup : candidates.Nodup) :
    (∀ a ∈ appearances, a.vehicle ∈ candidates) ∧ (appearances.map (·.vehicle)).Nodup := by
  induction h with
  | done => exact ⟨fun a ha => absurd ha List.not_mem_nil, List.nodup_nil⟩
  | tried hmem hslot htry _ ih => exact ih hnodup
  | placed hmem hslot hadmitted hnext hv hplace _ ih =>
    obtain ⟨hlisted, hdiffer⟩ := ih (hnodup.erase _)
    refine ⟨?_, ?_⟩
    · exact List.forall_mem_cons.mpr ⟨hmem, fun b hb => List.mem_of_mem_erase (hlisted b hb)⟩
    rw [List.map_cons, List.nodup_cons]
    refine ⟨fun hagain => ?_, hdiffer⟩
    -- who has been placed is no candidate any more
    obtain ⟨b, hb, heq⟩ := List.mem_map.mp hagain
    exact hnodup.not_mem_erase (heq ▸ hlisted b hb)

/-- What a vehicle was that appears, and what it is in the end. -/
structure Appears (now : Millis) (w w' : World α ρ) (a : Appearance α) (v v' : Vehicle α ρ)
    (slot : Slot α ρ) : Prop where
  inUse : w.InUse a.vehicle
  before : w.vehicle? a.vehicle = some v
  placed : Answers (v.place w.map w.settings a.point now true) (.ok (), v')
  /-- A lane leads on from the point. -/
  next : (w.map.point a.point).next.isSome = true
  found : w'.slot? a.vehicle.slot = some slot
  after : slot.vehicles[a.vehicle.serial]? = some v'
  wants : slot.Wants a.vehicle.serial
  lane : slot.admitsLane w.map a.point = true

/-- What a vehicle was before a step that leaves it alone, it is in the step's world too. -/
theorem Appears.of_leaves {w₁ : World α ρ} {a : Appearance α} {v v' : Vehicle α ρ}
    {slot : Slot α ρ} (h : Appears now w₁ w' a v v' slot) (hleaves : w.Leaves a.vehicle w₁)
    (hmap : w₁.map = w.map) (hsettings : w₁.settings = w.settings) :
    Appears now w w' a v v' slot where
  inUse := hleaves.inUse.mp h.inUse
  before := hleaves.vehicle.symm.trans h.before
  placed := by
    rw [← hmap, ← hsettings]
    exact h.placed
  next := by
    rw [← hmap]
    exact h.next
  found := h.found
  after := h.after
  wants := h.wants
  lane := by
    rw [← hmap]
    exact h.lane

/-- Whoever is placed and is no candidate any more is in the end as it was placed. -/
theorem Round.appears_of_placed {rest : List VehicleId} {a : Appearance α} {v v' : Vehicle α ρ}
    {slot : Slot α ρ} (hslot : w.slot? a.vehicle.slot = some slot)
    (hadmitted : Answers (slot.canPlace w.map w.settings a.vehicle a.point) (true, slot))
    (hnext : (w.map.point a.point).next.isSome = true)
    (hv : slot.vehicles[a.vehicle.serial]? = some v)
    (hplace : Answers (v.place w.map w.settings a.point now true) (.ok (), v'))
    (hrest : Round now (w.store (slot.store a.vehicle.serial v')) rest appearances w')
    (hgone : a.vehicle ∉ rest) : ∃ last, Appears now w w' a v v' last := by
  have hsame : (slot.store a.vehicle.serial v').key = slot.key := rfl
  have hstored := World.slot?_store hslot hsame a.vehicle.slot
  rw [if_pos (World.slot?_split hslot).1.symm] at hstored
  obtain ⟨last, hlast, htrims⟩ := hrest.trims hstored
  obtain ⟨hpool, hindex, hlane⟩ := Slot.canPlace_wants hadmitted
  refine ⟨last, (World.inUse_iff hslot).mpr hpool, ?_, hplace, hnext, hlast, ?_,
    htrims.wants _ ⟨hpool, hindex⟩, ?_⟩
  · rw [World.vehicle?_eq hslot, hv]
  · have hleft := (hrest.leaves hgone).vehicle
    rw [World.vehicle?_eq hlast, World.vehicle?_eq hstored] at hleft
    exact hleft.trans (Array.getElem?_setIfInBounds_self_of_lt
      (Array.getElem?_eq_some_iff.mp hv).1)
  · unfold Slot.admitsLane
    rw [htrims.persists.profile]
    exact hlane

theorem Round.appears (h : Round now w candidates appearances w') (hw : w.Arises)
    (hnodup : candidates.Nodup) :
    ∀ a ∈ appearances, ∃ v v' slot, Appears now w w' a v v' slot := by
  induction h with
  | done => exact fun a ha => nomatch ha
  | tried hmem hslot htry _ ih =>
    intro a ha
    have harises := hw _ (World.slot?_mem hslot)
    obtain ⟨v, v', last, happears⟩ := ih (hw.store (harises.canPlace htry)) hnodup a ha
    -- who is still in use has not been given up
    have hleaves := World.tried_leaves_of_inUse harises.pooled.nodup hslot htry happears.inUse
    exact ⟨v, v', last, happears.of_leaves hleaves World.store_map World.store_settings⟩
  | placed hmem hslot hadmitted hnext hv hplace hrest ih =>
    have harises := hw _ (World.slot?_mem hslot)
    refine List.forall_mem_cons.mpr ⟨?_, fun b hb => ?_⟩
    · exact ⟨_, _, appears_of_placed hslot hadmitted hnext hv hplace hrest
        hnodup.not_mem_erase⟩
    · have hlisted := (hrest.vehicles (hnodup.erase _)).1 b hb
      have hne := ne_of_mem_of_not_mem hlisted hnodup.not_mem_erase
      obtain ⟨u, u', last, happears⟩ :=
        ih (hw.store (harises.place hv hplace)) (hnodup.erase _) b hb
      exact ⟨u, u', last, happears.of_leaves (World.placed_leaves hslot hne) World.store_map
        World.store_settings⟩

end

/-! ## A tick -/

section

variable {s s₁ s₂ s' : Session α ρ} {outcome : Except DeadEnd Nat}

/-- The phases of a tick always answer the same, so that the last one begins where the first two
end. -/
theorem spawn_of_tick (hevents : Answers s.handleEvents s₁)
    (hdistribution : Answers (s₁.distributeIfDue now) s₂)
    (h : Answers (s.tick now) (outcome, s')) : Answers (s₂.spawn now) (outcome, s') := by
  obtain ⟨t₁, t₂, hevents', hdistribution', hspawn⟩ := tick_cases h
  obtain rfl := (handleEvents_faultless s).unique hevents hevents'
  obtain rfl := (distributeIfDue_faultless now s₁).unique hdistribution hdistribution'
  exact hspawn

/-- The round of a tick: with the unsafe vehicles off the road, the candidates are tried and
placed. -/
structure TickRound (now : Millis) (w : World α ρ) (appearances : List (Appearance α))
    (s' : Session α ρ) : Prop where
  sound : w.Sound
  arises : w.Arises
  round : Round now w (candidates w.settings now (traffic w) (foci w now)) appearances s'.world
  players : (appearances.map (·.player)).Subperm (w.activePlayers now)
  quiet : w.activePlayers now = [] → s'.world = w

theorem tick_round (hs : Reachable s) (hevents : Answers s.handleEvents s₁)
    (hdistribution : Answers (s₁.distributeIfDue now) s₂)
    (hremoved : Answers (removeUnsafe s₂.world) w) (h : Answers (s.tick now) (outcome, s')) :
    ∃ appearances, TickRound now w appearances s' ∧ outcome = .ok appearances.length := by
  have hsound := distributeIfDue_sound (handleEvents_sound (reachable_sound hs) hevents)
    hdistribution
  have harises := distributeIfDue_arises (handleEvents_arises (reachable_arises hs) hevents)
    hdistribution
  obtain ⟨w', hremoved', ⟨appearances, hround, hcount, hplayers⟩, hquiet, -⟩ :=
    spawn_round (spawn_of_tick hevents hdistribution h)
  obtain rfl := (removeUnsafe_faultless s₂.world).unique hremoved hremoved'
  exact ⟨appearances, ⟨(removeUnsafe_persists hremoved).sound hsound,
    removeUnsafe_arises harises hremoved, hround, hplayers, hquiet⟩, hcount⟩

/-- Each candidate is named once. -/
theorem TickRound.candidates_nodup {appearances : List (Appearance α)}
    (h : TickRound now w appearances s') :
    (candidates w.settings now (traffic w) (foci w now)).Nodup :=
  Session.candidates_nodup h.sound.nodup (fun slot hslot => (h.arises slot hslot).pooled.nodup) _

/-- **What appears in a tick.** A tick meets no dead end, and answers how many vehicles have
appeared. No vehicle appears twice, and no more than one for each active player. Each of them is
one in use, of a slot that the traffic drives and among those that the slot should have. When the
unsafe vehicles had been taken off the road it was not on the road, or near no player and not
protected any more; in exact arithmetic it was then out of the players' radius. Now it is at its
point, from where a lane leads on, on a lane that the slot's car may appear on. All other vehicles
are where they were or off the road. -/
theorem appearances_of_tick [OrderedScalar α] (hs : Reachable s)
    (hevents : Answers s.handleEvents s₁) (hdistribution : Answers (s₁.distributeIfDue now) s₂)
    (hremoved : Answers (removeUnsafe s₂.world) w) (h : Answers (s.tick now) (outcome, s')) :
    ∃ appearances : List (Appearance α),
      outcome = .ok appearances.length ∧
      (appearances.map (·.vehicle)).Nodup ∧
      (appearances.map (·.player)).Nodup ∧
      (∀ a ∈ appearances, a.player ∈ w.activePlayers now ∧
        ∃ v v' slot, Appears now w s'.world a v v' slot ∧ slot.byTraffic = true ∧
          (v.placed = false ∨
            ¬ IsNear w.settings (foci w now) v.position ∧ v.protectedUntil < now) ∧
          (∀ [Field α] [LinearOrder α] [IsStrictOrderedRing α] [ExactScalar α],
            0 ≤ w.settings.playerRadius → v.placed = true →
              ¬ WithinRadius w.settings (foci w now) v.position) ∧
          v'.placed = true ∧ v'.point = a.point) ∧
      ∀ id, (∀ a ∈ appearances, a.vehicle ≠ id) →
        s'.world.vehicle? id = w.vehicle? id ∨
          s'.world.vehicle? id = (w.vehicle? id).map (·.remove) := by
  obtain ⟨appearances, htick, hcount⟩ := tick_round hs hevents hdistribution hremoved h
  have hnodup := htick.candidates_nodup
  obtain ⟨hlisted, hdiffer⟩ := htick.round.vehicles hnodup
  refine ⟨appearances, hcount, hdiffer,
    nodup_of_subperm htick.players (World.activePlayers_nodup htick.sound.nodup now),
    fun a ha => ⟨htick.players.subset (List.mem_map_of_mem ha), ?_⟩,
    fun id hid => htick.round.elsewhere hid⟩
  obtain ⟨v, v', slot, happears⟩ := htick.round.appears htick.arises hnodup a ha
  obtain ⟨before, hbefore, htraffic, u, hu, hfree⟩ :=
    candidate_free htick.sound.nodup (hlisted a ha)
  -- the vehicle that was a candidate is the one that appears, and its slot is the same
  obtain rfl : v = u := by
    have hv := happears.before
    rw [World.vehicle?_eq hbefore, hu] at hv
    exact (Option.some.inj hv).symm
  obtain ⟨after, hafter, htrims⟩ := htick.round.trims hbefore
  rw [happears.found] at hafter
  obtain rfl := Option.some.inj hafter
  obtain ⟨-, hplaced, hpoint⟩ := Vehicle.place_of_next happears.next happears.placed
  refine ⟨v, v', slot, happears, htrims.persists.byTraffic.trans htraffic, hfree, ?_, hplaced,
    hpoint⟩
  intro _ _ _ _ hradius hroad hwithin
  rcases hfree with hout | ⟨hfar, -⟩
  · rw [hroad] at hout
    cases hout
  · exact hfar (isNear_of_withinRadius hradius hwithin)

end

/-! A tick can be made together with the worlds that it goes through. -/

/-- The worlds that a tick goes through. -/
structure Stages (α ρ : Type) [Scalar α] where
  /-- The events have been handled. -/
  heard : Session α ρ
  /-- The vehicles have been distributed, if that was due. -/
  distributed : Session α ρ
  /-- The unsafe vehicles have been taken off the road. -/
  cleared : World α ρ
  outcome : Except DeadEnd Nat
  last : Session α ρ

/-- A tick, with what it goes through. -/
def stages (s : Session α ρ) (now : Millis) : Logged α (Stages α ρ) := do
  let heard ← s.handleEvents
  let distributed ← heard.distributeIfDue now
  let cleared ← removeUnsafe distributed.world
  let (outcome, last) ← s.tick now
  return { heard, distributed, cleared, outcome, last }

theorem stages_cases {s : Session α ρ} {stages : Stages α ρ} (h : Answers (s.stages now) stages) :
    Answers s.handleEvents stages.heard ∧
      Answers (stages.heard.distributeIfDue now) stages.distributed ∧
      Answers (removeUnsafe stages.distributed.world) stages.cleared ∧
      Answers (s.tick now) (stages.outcome, stages.last) := by
  unfold Session.stages at h
  obtain ⟨heard, hheard, h⟩ := answers_bind h
  obtain ⟨distributed, hdistributed, h⟩ := answers_bind h
  obtain ⟨cleared, hcleared, h⟩ := answers_bind h
  obtain ⟨⟨outcome, last⟩, htick, h⟩ := answers_bind h
  rw [answers_pure h]
  exact ⟨hheard, hdistributed, hcleared, htick⟩

/-! A vehicle appears for a player, who then drives on. -/

/-- Settings by which vehicles appear where the player is, and are soon free again. -/
private def trailSettings : Settings Rat :=
  { Settings.standard with
    speedVariation := 0
    playerClearance := 0
    spawnDistance := ⟨0, 0⟩
    spawnProtection := ⟨100, 100⟩
    playerRadius := 50
    playerLead := 0 }

private def trailWorld : World Rat (Tape fun _ _ => 0) where
  map := sideBySide
  settings := trailSettings
  slots := #[]
  random := RandomSource.seeded 0

private def report (z : Rat) (time : Millis) : SlotEvent Rat :=
  .moved (SlotKey.nth 0) { Status.unknown with position := ⟨0, 0, z⟩, velocity := ⟨0, 0, 10⟩ } time

private def trailBegun : Session Rat (Tape fun _ _ => 0) :=
  (ofWorld ((trailWorld.addSlot "player" "" .players).addSlot "car" "" .traffic)).send (report 0 0)

private theorem trailBegun_tick : ((trailBegun.tick 0) #[]).1.isOk = true := by decide +kernel

/-- A vehicle has appeared, and the player has driven on by a hundred metres. -/
def trail : Session Rat (Tape fun _ _ => 0) :=
  (answerOf _ trailBegun_tick).2.send (report 100 10)

theorem trail_reachable : Reachable trail := by
  have hbegun : Reachable trailBegun := .acted (a := .send (report 0 0))
    (.begun (.added (.added (World.setUp_of_check (by decide +kernel))))) ⟨#[], #[], rfl⟩
  have hticked : Reachable (answerOf _ trailBegun_tick).2 :=
    hbegun.acted (a := .tick 0) (answers_map_of (answers_answerOf trailBegun_tick) (·.2))
  exact hticked.acted (a := .send (report 100 10)) ⟨#[], #[], rfl⟩

private theorem trail_stages : ((trail.stages 500) #[]).1.isOk = true := by decide +kernel

/-- A tick with the vehicle behind the player. -/
private def trailStages : Stages Rat (Tape fun _ _ => 0) := answerOf _ trail_stages

/-- The vehicle on the road is left behind and not protected any more, and appears once again. -/
theorem appearances_of_tick_behind :
    ∃ a v v' slot, Appears 500 trailStages.cleared trailStages.last.world a v v' slot ∧
      v.placed = true ∧
      ¬ WithinRadius trailStages.cleared.settings (foci trailStages.cleared 500) v.position ∧
      ¬ IsNear trailStages.cleared.settings (foci trailStages.cleared 500) v.position ∧
      v.protectedUntil < 500 := by
  obtain ⟨hevents, hdistribution, hremoved, htick⟩ := stages_cases (answers_answerOf trail_stages)
  obtain ⟨appearances, hcount, -, -, happears, -⟩ :=
    appearances_of_tick trail_reachable hevents hdistribution hremoved htick
  have hone : trailStages.outcome.toOption = some 1 := by decide +kernel
  rw [show trailStages.outcome = _ from hcount] at hone
  obtain ⟨a, rfl⟩ := List.length_eq_one_iff.mp (Option.some.inj hone)
  obtain ⟨-, v, v', slot, happears, -, hfree, hfar, -⟩ := happears a (List.mem_singleton_self a)
  -- before the tick all vehicles are on the road
  have hall : ∀ slot ∈ trailStages.cleared.slots.toList, ∀ v ∈ slot.vehicles.toList,
      v.placed = true := by decide +kernel
  obtain ⟨before, hbefore, hv⟩ := Option.bind_eq_some_iff.mp happears.before
  have hplaced := hall before (Array.mem_toList_iff.mpr (World.slot?_mem hbefore)) v
    (Array.mem_toList_iff.mpr (Array.mem_of_getElem? hv))
  refine ⟨a, v, v', slot, happears, hplaced, hfar (by decide +kernel) hplaced,
    hfree.resolve_left fun hout => ?_⟩
  rw [hplaced] at hout
  cases hout

end Session

end RoadTraffic
