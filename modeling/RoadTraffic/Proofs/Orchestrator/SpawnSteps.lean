import Mathlib.Data.List.Perm.Subperm
import Mathlib.Logic.Relation
import RoadTraffic.Proofs.Orchestrator.Candidates
import RoadTraffic.Proofs.Orchestrator.SpawnPoint
import RoadTraffic.Proofs.Vehicle.Placement
import RoadTraffic.Proofs.World.Persists

/-!
# The steps in which vehicles appear

However many players and candidates there are, a round of spawning is made of steps of two kinds: a
candidate is tried for a point, which may cost its slot the candidate, or a candidate that was
admitted at a point is placed there and is none any more. `Round` is a sequence of such steps with
the candidates that there are and the vehicles that appear, and `spawn_round` says that every round
is one, after the unsafe vehicles have been taken off the road: it meets no dead end, answers how
many vehicles have appeared, and lets no more than one appear for each player.

What is proved step by step needs less: `SpawnStep` says all that one step can do to the world. What
every step keeps is then kept by the round (`spawn_steps`); `spawn_persists` is the first use of it.

Candidates are vehicles of slots that the traffic drives when the round begins, and the traffic
drives these slots until it ends (`Driven`).
-/

namespace RoadTraffic

namespace Session

variable {α ρ : Type} [Scalar α] [RandomSource ρ]

/-- What one step of spawning does to the world. -/
inductive SpawnStep (now : Millis) : World α ρ → World α ρ → Prop where
  /-- A candidate is tried for a point. -/
  | tried {w : World α ρ} {slot slot' : Slot α ρ} {c : VehicleId} {point : PointId}
      {admitted : Bool} (hslot : w.slot? c.slot = some slot)
      (htry : Answers (slot.canPlace w.map w.settings c point) (admitted, slot')) :
      SpawnStep now w (w.store slot')
  /-- A candidate that was admitted at a point is placed there. -/
  | placed {w : World α ρ} {slot : Slot α ρ} {v v' : Vehicle α ρ} {c : VehicleId}
      {point : PointId} {outcome : Except DeadEnd Unit} (hslot : w.slot? c.slot = some slot)
      (hdriven : c.slot ∈ w.trafficSlots.map (·.key))
      (hadmitted : Answers (slot.canPlace w.map w.settings c point) (true, slot))
      (hv : slot.vehicles[c.serial]? = some v)
      (hplace : Answers (v.place w.map w.settings point now true) (outcome, v')) :
      SpawnStep now w (w.store (slot.store c.serial v'))

/-- Any number of steps of spawning. -/
abbrev Spawned (now : Millis) : World α ρ → World α ρ → Prop :=
  Relation.ReflTransGen (SpawnStep now)

variable {now : Millis}

theorem spawnStep_persists {w w' : World α ρ} (h : SpawnStep now w w') : w.Persists w' := by
  cases h with
  | tried hslot htry => exact World.store_persists hslot (Slot.canPlace_persists htry)
  | placed hslot hdriven hadmitted hv hplace =>
    exact World.store_persists hslot (Slot.store_persists hv (Vehicle.place_profile hplace))

theorem spawned_persists {w w' : World α ρ} (h : Spawned now w w') : w.Persists w' := by
  induction h with
  | refl => exact .refl
  | tail _ hstep ih => exact ih.trans (spawnStep_persists hstep)

/-- What appears in a round: a vehicle, at a point, for a player. -/
structure Appearance (α : Type) where
  vehicle : VehicleId
  point : PointId
  player : SlotKey × Player α

/-- A round of spawning: the world and the candidates that it begins with, what appears in it, and
the world that it ends in. -/
inductive Round (now : Millis) :
    World α ρ → List VehicleId → List (Appearance α) → World α ρ → Prop where
  | done {w : World α ρ} {candidates : List VehicleId} : Round now w candidates [] w
  /-- A candidate is tried for a point. -/
  | tried {w w' : World α ρ} {slot slot' : Slot α ρ} {candidates : List VehicleId}
      {c : VehicleId} {point : PointId} {admitted : Bool} {appearances : List (Appearance α)}
      (hmem : c ∈ candidates) (hslot : w.slot? c.slot = some slot)
      (htry : Answers (slot.canPlace w.map w.settings c point) (admitted, slot'))
      (hrest : Round now (w.store slot') candidates appearances w') :
      Round now w candidates appearances w'
  /-- A candidate that was admitted at a point is placed there. -/
  | placed {w w' : World α ρ} {slot : Slot α ρ} {v v' : Vehicle α ρ}
      {candidates : List VehicleId} {a : Appearance α} {appearances : List (Appearance α)}
      (hmem : a.vehicle ∈ candidates) (hslot : w.slot? a.vehicle.slot = some slot)
      (hadmitted : Answers (slot.canPlace w.map w.settings a.vehicle a.point) (true, slot))
      (hnext : (w.map.point a.point).next.isSome = true)
      (hv : slot.vehicles[a.vehicle.serial]? = some v)
      (hplace : Answers (v.place w.map w.settings a.point now true) (.ok (), v'))
      (hrest : Round now (w.store (slot.store a.vehicle.serial v'))
        (candidates.erase a.vehicle) appearances w') :
      Round now w candidates (a :: appearances) w'

/-- The candidates are vehicles of slots that the traffic drives. -/
def Driven (w : World α ρ) (candidates : List VehicleId) : Prop :=
  ∀ c ∈ candidates, c.slot ∈ w.trafficSlots.map (·.key)

/-- While vehicles appear, the traffic drives the same slots. -/
theorem Driven.spawned {w w' : World α ρ} {candidates : List VehicleId} (h : Driven w candidates)
    (hsteps : Spawned now w w') : Driven w' candidates := by
  intro c hc
  rw [(spawned_persists hsteps).trafficKeys]
  exact h c hc

/-- A round with candidates of the traffic is made of steps. -/
theorem Round.spawned {w w' : World α ρ} {candidates : List VehicleId}
    {appearances : List (Appearance α)} (h : Round now w candidates appearances w')
    (hdriven : Driven w candidates) : Spawned now w w' := by
  induction h with
  | done => exact .refl
  | tried hmem hslot htry _ ih =>
    have hstep : SpawnStep now _ _ := .tried hslot htry
    exact .head hstep (ih (hdriven.spawned (.single hstep)))
  | placed hmem hslot hadmitted hnext hv hplace _ ih =>
    have hstep := SpawnStep.placed hslot (hdriven _ hmem) hadmitted hv hplace
    have hleft : Driven _ _ := hdriven.spawned (.single hstep)
    exact .head hstep (ih fun c hc => hleft c (List.mem_of_mem_erase hc))

/-- What appears with some candidates can appear with more. -/
theorem Round.more {w w' : World α ρ} {candidates candidates' : List VehicleId}
    {appearances : List (Appearance α)} (h : Round now w candidates appearances w')
    (hsub : candidates.Sublist candidates') : Round now w candidates' appearances w' := by
  induction h generalizing candidates' with
  | done => exact .done
  | tried hmem hslot htry _ ih => exact .tried (hsub.mem hmem) hslot htry (ih hsub)
  | placed hmem hslot hadmitted hnext hv hplace _ ih =>
    exact .placed (hsub.mem hmem) hslot hadmitted hnext hv hplace (ih (hsub.erase _))

/-! ## A round from its turns -/

/-- A turn, which is a player's: a vehicle appears for the player or none does. -/
structure Turn (now : Millis) (player : SlotKey × Player α) (appearances : List (Appearance α))
    (sp sp' : Spawning α ρ) : Prop where
  spawned : sp'.spawned = sp.spawned + appearances.length
  players : (appearances.map (·.player)).Sublist [player]
  /-- Whatever round follows, the turn and that round are a round. -/
  before : ∀ {later w}, Round now sp'.world sp'.candidates later w →
    Round now sp.world sp.candidates (appearances ++ later) w

/-- The candidates before the first one that is admitted are tried, and that one is not changed. -/
theorem firstFor_round (now : Millis) {point : PointId} {candidates tried : List VehicleId}
    {w w' : World α ρ} {found : Option VehicleId} (hsub : tried ⊆ candidates)
    (h : Answers (firstFor point tried w) (found, w')) :
    (w'.map = w.map ∧ ∀ {later w''}, Round now w' candidates later w'' →
      Round now w candidates later w'') ∧
    ∀ c, found = some c → c ∈ candidates ∧ ∃ slot, w'.slot? c.slot = some slot ∧
      Answers (slot.canPlace w'.map w'.settings c point) (true, slot) := by
  induction tried generalizing w with
  | nil =>
    cases answers_pure h
    exact ⟨⟨rfl, fun hlater => hlater⟩, fun c hc => nomatch hc⟩
  | cons c rest ih =>
    obtain ⟨hmem, hrest⟩ := List.cons_subset.mp hsub
    unfold firstFor at h
    split at h
    · exact ih hrest h
    · next slot hslot =>
      obtain ⟨⟨admitted, slot'⟩, htry, h⟩ := answers_bind h
      cases admitted with
      | false =>
        obtain ⟨⟨hmap, hbefore⟩, hfound⟩ := ih hrest h
        exact ⟨⟨hmap.trans World.store_map, fun hlater => .tried hmem hslot htry (hbefore hlater)⟩,
          hfound⟩
      | true =>
        cases answers_pure h
        -- whoever is admitted is left as it was, and the admission holds in the same world
        obtain ⟨rfl, -⟩ := Slot.canPlace_admitted htry
        rw [World.store_self hslot]
        refine ⟨⟨rfl, fun hlater => hlater⟩, fun d hd => ?_⟩
        cases hd
        exact ⟨hmem, _, hslot, htry⟩

/-- A candidate that was admitted at a point with a way on can be placed. -/
theorem placeCandidate_turn {playerSlot : SlotKey} {player : Player α} {point : PointId}
    {c : VehicleId} {sp sp' : Spawning α ρ} {outcome : Except DeadEnd Unit}
    (hmem : c ∈ sp.candidates) (hnext : (sp.world.map.point point).next.isSome = true)
    (hadmitted : ∃ slot, sp.world.slot? c.slot = some slot ∧
      Answers (slot.canPlace sp.world.map sp.world.settings c point) (true, slot))
    (h : Answers (placeCandidate now playerSlot player point c sp) (outcome, sp')) :
    outcome = .ok () ∧ ∃ appearances, Turn now (playerSlot, player) appearances sp sp' := by
  obtain ⟨slot, hslot, htry⟩ := hadmitted
  unfold placeCandidate at h
  dsimp only at h
  rw [hslot, Option.bind_some] at h
  cases hv : slot.vehicles[c.serial]? with
  | none =>
    rw [hv] at h
    cases answers_pure h
    exact ⟨rfl, [], rfl, List.nil_sublist _, fun hlater => hlater.more List.erase_sublist⟩
  | some v =>
    rw [hv] at h
    obtain ⟨⟨placed, v'⟩, hplace, h⟩ := answers_bind h
    have hplace := answers_lift hplace
    obtain ⟨rfl, -⟩ := Vehicle.place_of_next hnext hplace
    obtain ⟨-, -, h⟩ := answers_bind h
    cases answers_pure h
    exact ⟨rfl, [⟨c, point, (playerSlot, player)⟩], rfl, List.Sublist.refl _,
      fun hlater => .placed hmem hslot htry hnext hv hplace hlater⟩

theorem spawnFor_turn {players : List (Vec3 α)} {playerSlot : SlotKey} {player : Player α}
    {sp sp' : Spawning α ρ} {outcome : Except DeadEnd Unit}
    (h : Answers (spawnFor now players playerSlot player sp) (outcome, sp')) :
    outcome = .ok () ∧ ∃ appearances, Turn now (playerSlot, player) appearances sp sp' := by
  unfold spawnFor at h
  obtain ⟨⟨point, random⟩, hpoint, h⟩ := answers_bind h
  cases point with
  | none =>
    obtain ⟨-, -, h⟩ := answers_bind h
    cases answers_pure h
    exact ⟨rfl, [], rfl, List.nil_sublist _, fun hlater => hlater⟩
  | some point =>
    obtain ⟨hnext, -⟩ := SpawnPoint.find_lane (answers_lift hpoint)
    obtain ⟨⟨candidate, w⟩, hfirst, h⟩ := answers_bind h
    obtain ⟨⟨hmap, hbefore⟩, hfound⟩ := firstFor_round now (List.Subset.refl _) hfirst
    cases candidate with
    | none =>
      obtain ⟨-, -, h⟩ := answers_bind h
      cases answers_pure h
      exact ⟨rfl, [], rfl, List.nil_sublist _, hbefore⟩
    | some c =>
      obtain ⟨hmem, hadmitted⟩ := hfound c rfl
      have hlisted : c ∈ Spawning.candidates { sp with random, world := w } := hmem
      rw [← hmap] at hnext
      obtain ⟨hok, appearances, hturn⟩ := placeCandidate_turn hlisted hnext hadmitted h
      exact ⟨hok, appearances, hturn.spawned, hturn.players,
        fun hlater => hbefore (hturn.before hlater)⟩

/-- Every player has at most one turn. -/
theorem spawnInTurns_round {players : List (Vec3 α)} {turns : Nat}
    {order : List (SlotKey × Player α)} {sp sp' : Spawning α ρ} {outcome : Except DeadEnd Unit}
    (h : Answers (spawnInTurns now players turns order sp) (outcome, sp')) :
    outcome = .ok () ∧ ∃ appearances, Round now sp.world sp.candidates appearances sp'.world ∧
      sp'.spawned = sp.spawned + appearances.length ∧
      (appearances.map (·.player)).Subperm order := by
  induction turns generalizing order sp outcome with
  | zero =>
    cases answers_pure h
    exact ⟨rfl, [], .done, rfl, List.nil_subperm⟩
  | succ turns ih =>
    unfold spawnInTurns at h
    split at h
    · cases answers_pure h
      exact ⟨rfl, [], .done, rfl, List.nil_subperm⟩
    · dsimp only at h
      split at h
      · cases answers_pure h
        exact ⟨rfl, [], .done, rfl, List.nil_subperm⟩
      · next playerSlot player hplayer =>
        obtain ⟨⟨turn, after⟩, hturn, h⟩ := answers_bind h
        obtain ⟨rfl, appearances, hturn⟩ := spawnFor_turn hturn
        obtain ⟨hok, later, hround, hspawned, hplayers⟩ := ih h
        refine ⟨hok, appearances ++ later, hturn.before hround, ?_, ?_⟩
        · rw [hspawned, hturn.spawned, List.length_append, Nat.add_assoc]
        · -- the player whose turn it was has no other one
          obtain ⟨hi, hget⟩ := List.getElem?_eq_some_iff.mp hplayer
          rw [List.map_append]
          refine (hturn.players.subperm.append hplayers).trans ?_
          rw [← hget]
          exact (List.getElem_cons_eraseIdx_perm hi).subperm

/-- A round of spawning takes the unsafe vehicles off the road, and then the candidates are tried
and placed. It meets no dead end, and answers how many vehicles have appeared: at most one for each
player. -/
theorem spawn_round {s s' : Session α ρ} {outcome : Except DeadEnd Nat}
    (h : Answers (s.spawn now) (outcome, s')) :
    ∃ w, Answers (removeUnsafe s.world) w ∧
      (∃ appearances, Round now w (candidates w.settings now (traffic w) (foci w now)) appearances
          s'.world ∧
        outcome = .ok appearances.length ∧
        (appearances.map (·.player)).Subperm (w.activePlayers now)) ∧
      (w.activePlayers now = [] → s'.world = w) ∧
      ∃ random overlay, s'.orchestrator = { s.orchestrator with random, overlay } := by
  unfold spawn at h
  obtain ⟨w, hw, h⟩ := answers_bind h
  refine ⟨w, hw, ?_⟩
  dsimp only at h
  split at h
  · cases answers_pure h
    exact ⟨⟨[], .done, rfl, List.nil_subperm⟩, fun _ => rfl, _, _, rfl⟩
  · next hplayers =>
    obtain ⟨⟨turns, sp⟩, hturns, h⟩ := answers_bind h
    cases answers_pure h
    obtain ⟨rfl, appearances, hround, hspawned, hsubperm⟩ := spawnInTurns_round hturns
    rw [List.map_map] at hround
    refine ⟨⟨appearances, hround, ?_, hsubperm.trans ?_⟩, fun hnone => ?_, _, _, rfl⟩
    · rw [Except.map, hspawned, Nat.zero_add]
    · refine ((farthestFirst_perm _).trans ?_).subperm
      rw [List.map_map, List.map_map]
      exact List.Perm.of_eq (List.map_id _)
    · rw [hnone] at hplayers
      exact absurd rfl hplayers

omit [RandomSource ρ] in
/-- The candidates of a round belong to slots that the traffic drives when it begins. -/
theorem candidates_driven (s : Settings α) (w : World α ρ) (foci : List (Vec3 α)) :
    Driven w (candidates s now (traffic w) foci) := by
  intro c hc
  obtain ⟨slot, hslot, hkey, -⟩ := mem_candidates hc
  exact hkey ▸ List.mem_map_of_mem hslot

/-- A round of spawning takes the unsafe vehicles off the road and then goes on in steps. Of the
orchestrator it changes no more than the randomness and the overlay. -/
theorem spawn_steps {s s' : Session α ρ} {outcome : Except DeadEnd Nat}
    (h : Answers (s.spawn now) (outcome, s')) :
    (∃ w, Answers (removeUnsafe s.world) w ∧ Spawned now w s'.world) ∧
      ∃ random overlay, s'.orchestrator = { s.orchestrator with random, overlay } := by
  obtain ⟨w, hw, ⟨appearances, hround, -⟩, -, horchestrator⟩ := spawn_round h
  exact ⟨⟨w, hw, hround.spawned (candidates_driven _ _ _)⟩, horchestrator⟩

/-! ## What a round keeps -/

omit [RandomSource ρ] in
/-- Unsafe vehicles can always be taken off the road. -/
theorem removeUnsafe_faultless (w : World α ρ) : Faultless (removeUnsafe w) := by
  refine (faultless_mapM (fun slot => ?_) _).bind fun _ => faultless_pure _
  split
  · exact (slot.removeUnsafe_faultless w.map w.settings).map _
  · exact faultless_pure _

omit [RandomSource ρ] in
/-- Slot by slot the unsafe vehicles are taken off the road, where the traffic drives the slot. -/
theorem removeUnsafe_cases {w w' : World α ρ} (h : Answers (removeUnsafe w) w') :
    w'.map = w.map ∧ w'.settings = w.settings ∧
      List.Forall₂ (fun slot slot' =>
        (slot.byTraffic = true ∧
          ∃ count, Answers (slot.removeUnsafe w.map w.settings) (count, slot')) ∨
        (slot.byTraffic = false ∧ slot' = slot)) w.slots.toList w'.slots.toList := by
  unfold removeUnsafe at h
  obtain ⟨slots, hslots, h⟩ := answers_bind h
  cases answers_pure h
  refine ⟨rfl, rfl, (answers_mapM hslots).imp fun slot slot' hslot => ?_⟩
  split at hslot
  · next htraffic =>
    obtain ⟨⟨count, left⟩, hleft, rfl⟩ := answers_map hslot
    exact Or.inl ⟨htraffic, count, hleft⟩
  · next hplayer => exact Or.inr ⟨by simpa using hplayer, answers_pure hslot⟩

omit [RandomSource ρ] in
/-- Each slot has come from one of the earlier ones, by the removal of its unsafe vehicles if the
traffic drives it. -/
theorem removeUnsafe_slot {w w' : World α ρ} (h : Answers (removeUnsafe w) w') {slot' : Slot α ρ}
    (hslot' : slot' ∈ w'.slots) :
    ∃ slot ∈ w.slots,
      (slot.byTraffic = true ∧
        ∃ count, Answers (slot.removeUnsafe w.map w.settings) (count, slot')) ∨
      (slot.byTraffic = false ∧ slot' = slot) := by
  obtain ⟨-, -, hslots⟩ := removeUnsafe_cases h
  obtain ⟨slot, hslot, hchanged⟩ := exists_of_forall₂ hslots (Array.mem_toList_iff.mpr hslot')
  exact ⟨slot, Array.mem_toList_iff.mp hslot, hchanged⟩

omit [RandomSource ρ] in
theorem removeUnsafe_persists {w w' : World α ρ} (h : Answers (removeUnsafe w) w') :
    w.Persists w' := by
  obtain ⟨hmap, hsettings, hslots⟩ := removeUnsafe_cases h
  refine ⟨hmap, hsettings, hslots.imp ?_⟩
  rintro slot slot' (⟨-, count, hleft⟩ | ⟨-, rfl⟩)
  · exact Slot.removeUnsafe_persists hleft
  · exact .refl

theorem spawn_persists {s s' : Session α ρ} {outcome : Except DeadEnd Nat}
    (h : Answers (s.spawn now) (outcome, s')) : s.world.Persists s'.world := by
  obtain ⟨⟨w, hremoved, hspawned⟩, -⟩ := spawn_steps h
  exact (removeUnsafe_persists hremoved).trans (spawned_persists hspawned)

end Session

end RoadTraffic
