import RoadTraffic.Proofs.Orchestrator.Reachable
import RoadTraffic.Proofs.Random.Tape
import RoadTraffic.Proofs.Roads.SideBySide
import RoadTraffic.Proofs.Slot.Spacing

/-!
# Spacing after a tick

In exact arithmetic every slot that the traffic drives, and whose vehicles are not raised above the
road, is spaced when a tick of the orchestrator has ended (`spaced_of_tick`). That holds in every
session that actions lead to, and also if the tick was cut short by a dead end. The removal of
unsafe vehicles makes the slots spaced, and each step in which vehicles appear keeps them so.
-/

namespace RoadTraffic

variable {K ρ : Type} [Field K] [LinearOrder K] [IsStrictOrderedRing K] [Scalar K]

/-- The slots that the traffic drives with vehicles at the height of the road are spaced. -/
def World.Spaced (w : World K ρ) : Prop :=
  ∀ slot ∈ w.slots, slot.byTraffic = true → slot.profile.heightOffset = 0 →
    slot.Spaced w.map w.settings

omit [IsStrictOrderedRing K] in
/-- A slot that is spaced may be put back. -/
theorem World.Spaced.store {w : World K ρ} {slot : Slot K ρ} (hw : w.Spaced)
    (hslot : slot.byTraffic = true → slot.profile.heightOffset = 0 →
      slot.Spaced w.map w.settings) : (w.store slot).Spaced := by
  intro other hother htraffic hflat
  rw [World.store_map, World.store_settings]
  rcases World.mem_store hother with hold | rfl
  · exact hw other hold htraffic hflat
  · exact hslot htraffic hflat

namespace Session

variable [ExactScalar K]

theorem removeUnsafe_spaced {w w' : World K ρ} (h : Answers (removeUnsafe w) w') : w'.Spaced := by
  obtain ⟨hmap, hsettings, -⟩ := removeUnsafe_cases h
  intro slot' hslot' htraffic _
  obtain ⟨slot, -, ⟨-, count, hleft⟩ | ⟨hplayer, rfl⟩⟩ := removeUnsafe_slot h hslot'
  · rw [hmap, hsettings]
    exact Slot.removeUnsafe_spaced hleft
  · rw [hplayer] at htraffic
    cases htraffic

variable [RandomSource ρ] {now : Millis}

theorem spawnStep_spaced {w w' : World K ρ} (hw : w.Sound) (hspaced : w.Spaced)
    (h : SpawnStep now w w') : w'.Spaced := by
  cases h with
  | @tried slot slot' c point admitted hslot htry =>
    refine hspaced.store fun htraffic hflat => ?_
    have hkept := Slot.canPlace_persists htry
    rw [hkept.byTraffic] at htraffic
    rw [hkept.profile] at hflat
    exact Slot.canPlace_spaced (hspaced slot (World.slot?_mem hslot) htraffic hflat) htry
  | @placed slot v v' c point outcome hslot hdriven hadmitted hv hplace =>
    refine hspaced.store fun htraffic hflat => ?_
    have hmem := World.slot?_mem hslot
    exact Slot.place_spaced hw.settings hflat (hw.uniform slot hmem)
      (hspaced slot hmem htraffic hflat) hadmitted hv hplace

theorem spawned_spaced {w w' : World K ρ} (hw : w.Sound) (hspaced : w.Spaced)
    (h : Spawned now w w') : w'.Spaced := by
  induction h with
  | refl => exact hspaced
  | tail hsteps hstep ih => exact spawnStep_spaced ((spawned_persists hsteps).sound hw) ih hstep

/-- **Same-slot spacing.** Right after a tick, in every slot that the traffic drives and whose
vehicles are not raised above the road, no two vehicles on the road that travel the same way are
closer together than the settings ask. -/
theorem spaced_of_tick {s s' : Session K ρ} {outcome : Except DeadEnd Nat} (hs : Reachable s)
    (htick : Answers (s.tick now) (outcome, s')) :
    ∀ slot ∈ s'.world.slots, slot.byTraffic = true → slot.profile.heightOffset = 0 →
      ∀ i a j b, (i, a) ∈ slot.placed → (j, b) ∈ slot.placed → i ≠ j →
        s'.world.map.sameDirection a.point b.point = true →
        ¬ a.position.distance b.position < s'.world.settings.minSpacing := by
  obtain ⟨s₁, s₂, hevents, hdistribution, hspawn⟩ := tick_cases htick
  have hsound := distributeIfDue_sound (handleEvents_sound (reachable_sound hs) hevents)
    hdistribution
  obtain ⟨⟨w, hremoved, hspawned⟩, -⟩ := spawn_steps hspawn
  exact spawned_spaced ((removeUnsafe_persists hremoved).sound hsound)
    (removeUnsafe_spaced hremoved) hspawned

/-! A slot of two vehicles on the road of two lanes: a player begins on one lane and goes on to the
other, and at each place a vehicle appears in the only slot that has room for any. -/

/-- Settings by which vehicles appear where the player is. -/
private def nearSettings : Settings Rat :=
  { Settings.standard with
    speedVariation := 0
    minSpacing := 50
    spawnSpacing := 60
    playerClearance := 0
    spawnDistance := ⟨0, 0⟩
    overrides := [{ Override.ofModel "full" with vehicleLimit := some 0 }] }

private def nearWorld : World Rat (Tape fun _ _ => 0) where
  map := sideBySide
  settings := nearSettings
  slots := #[]
  random := RandomSource.seeded 0

private theorem nearWorld_setUp : nearWorld.SetUp :=
  World.setUp_of_check (by decide +kernel)

/-- A report of the player at a distance along the road. -/
private def playerAt (z : Rat) (now : Millis) : SlotEvent Rat :=
  .moved (SlotKey.nth 0) { Status.unknown with position := ⟨0, 0, z⟩, velocity := ⟨0, 0, 10⟩ } now

private def nearSession : Session Rat (Tape fun _ _ => 0) :=
  (ofWorld (((nearWorld.addSlot "player" "" .players).addSlot "full" "" .traffic).addSlot "car" ""
    .traffic)).send (playerAt 0 0)

private theorem nearSession_reachable : Reachable nearSession :=
  .acted (a := .send (playerAt 0 0)) (.begun (.added (.added (.added nearWorld_setUp))))
    ⟨#[], #[], rfl⟩

private theorem firstTick : ((nearSession.tick 0) #[]).1.isOk = true := by decide +kernel

private def nearSession₁ : Session Rat (Tape fun _ _ => 0) :=
  (answerOf _ firstTick).2.send (playerAt 100 500)

private theorem nearSession₁_reachable : Reachable nearSession₁ := by
  have hticked : Reachable (answerOf _ firstTick).2 :=
    .acted (a := .tick 0) nearSession_reachable
      (answers_map_of (answers_answerOf firstTick) (·.2))
  exact .acted (a := .send (playerAt 100 500)) hticked ⟨#[], #[], rfl⟩

private theorem secondTick : ((nearSession₁.tick 500) #[]).1.isOk = true := by decide +kernel

private def nearSession₂ : Session Rat (Tape fun _ _ => 0) := (answerOf _ secondTick).2

private theorem nearSession₂_size : 2 < nearSession₂.world.slots.size := by decide +kernel

/-- The slot that has room for vehicles. -/
private def nearSlot : Slot Rat (Tape fun _ _ => 0) :=
  have := nearSession₂_size
  nearSession₂.world.slots[2]

/-- After the second tick two vehicles of one slot and one direction are on the road, and they keep
their distance. -/
theorem spaced_of_tick_two_vehicles :
    ∃ a b, (0, a) ∈ nearSlot.placed ∧ (1, b) ∈ nearSlot.placed ∧
      nearSession₂.world.map.sameDirection a.point b.point = true ∧
      ¬ a.position.distance b.position < nearSession₂.world.settings.minSpacing := by
  have hserials : nearSlot.placed.map (·.1) = [0, 1] := by decide +kernel
  have hdirection : ∀ p ∈ nearSlot.placed, ∀ q ∈ nearSlot.placed,
      nearSession₂.world.map.sameDirection p.2.point q.2.point = true := by decide +kernel
  have hfirst : 0 ∈ nearSlot.placed.map (·.1) := by rw [hserials]; decide
  have hsecond : 1 ∈ nearSlot.placed.map (·.1) := by rw [hserials]; decide
  obtain ⟨⟨_, a⟩, ha, rfl⟩ := List.mem_map.mp hfirst
  obtain ⟨⟨_, b⟩, hb, rfl⟩ := List.mem_map.mp hsecond
  have hab := hdirection _ ha _ hb
  have hfar := spaced_of_tick nearSession₁_reachable (answers_answerOf secondTick) nearSlot
    (Array.getElem_mem nearSession₂_size) (by decide +kernel) (by decide +kernel) 0 a 1 b ha hb
    (by decide) hab
  exact ⟨a, b, ha, hb, hab, hfar⟩

end Session

end RoadTraffic
