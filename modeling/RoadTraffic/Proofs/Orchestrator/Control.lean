import RoadTraffic.Proofs.Orchestrator.Players
import RoadTraffic.Proofs.Slot.Spacing

/-!
# A player has the slot alone

Who drives a slot is told by its mode and, where a slot is shared, by the last player who came or
went. A slot that a player drives has no vehicle on the road (`Slot.Vacated`): handing it over takes
its vehicles off the road, and vehicles appear only in slots that the traffic drives. Nothing that
happens to a session breaks this, so that it holds after every tick (`control_of_tick`).

Events that concern no slot, and players who come to slots for the traffic only, might as well not
have come in (`handleEvents_ignored`).
-/

namespace RoadTraffic

open SlotEvent (joined)

namespace Slot

variable {α ρ : Type} {slot slot' : Slot α ρ}

/-- If a player drives the slot, none of its vehicles is on the road. -/
def Vacated (slot : Slot α ρ) : Prop := slot.byTraffic = false → slot.placed = []

/-- What the traffic drives need not be vacated. -/
theorem vacated_of_traffic (h : slot.byTraffic = true) : slot.Vacated :=
  fun hplayer => absurd (h.symm.trans hplayer) (by decide)

/-- A slot that only loses vehicles stays vacated. -/
theorem Vacated.subset (h : slot.Vacated) (hdriver : slot'.byTraffic = slot.byTraffic)
    (hsub : ∀ p ∈ slot'.placed, p ∈ slot.placed) : slot'.Vacated := by
  intro hplayer
  have hnone := h (hdriver.symm.trans hplayer)
  rw [hnone] at hsub
  exact List.eq_nil_iff_forall_not_mem.mpr fun p hp => List.not_mem_nil (hsub p hp)

theorem new_vacated [Scalar α] [RandomSource ρ] {key : SlotKey} {model skin : String}
    {mode : ControlMode} {settings : Settings α} {seed : UInt64} :
    (new key model skin mode settings seed : Slot α ρ).Vacated := fun _ => rfl

variable [Scalar α]

theorem removeAll_placed : slot.removeAll.placed = [] := by
  refine List.eq_nil_iff_forall_not_mem.mpr fun ⟨i, v⟩ hv => ?_
  obtain ⟨hplaced, hi⟩ := mem_placed_removeFromRoad.mp hv
  exact hi (mem_placed.mp hplaced).1

/-- Who hands a slot over leaves it vacated. -/
theorem setControl_vacated {byTraffic admitted : Bool} (hs : slot.Vacated)
    (h : Answers (slot.setControl byTraffic) (admitted, slot')) : slot'.Vacated := by
  unfold setControl at h
  split at h
  · cases answers_pure h
    exact hs
  · split at h
    · cases answers_pure h
      exact hs
    · obtain ⟨-, -, h⟩ := answers_bind h
      cases answers_pure h
      cases byTraffic with
      | true => exact vacated_of_traffic rfl
      | false => exact fun _ => removeAll_placed

theorem Handles.vacated {event : SlotEvent α} (h : slot.Handles event slot')
    (hs : slot.Vacated) : slot'.Vacated := by
  cases h with
  | refused hmode => exact hs
  | @taken slot' hmode h =>
    have htaken : slot'.Vacated := setControl_vacated hs h
    exact htaken
  | left hmode => exact hs
  | returned hmode h =>
    have hleft : Vacated { slot with player := none } := hs
    exact setControl_vacated hleft h
  | heard status time => exact hs

end Slot

namespace World

variable {α ρ : Type} {w w' : World α ρ}

/-- The slots that players drive have no vehicles on the road. -/
def Vacated (w : World α ρ) : Prop := ∀ slot ∈ w.slots, slot.Vacated

/-- A slot may be put back that is vacated. -/
theorem Vacated.store (h : w.Vacated) {slot : Slot α ρ} (hslot : slot.Vacated) :
    (w.store slot).Vacated := by
  intro other hother
  rcases mem_store hother with hold | rfl
  · exact h other hold
  · exact hslot

/-- The event changes no slot: if there is a slot that it is about, that one is for the traffic only
and a player comes to it. -/
def Ignores (w : World α ρ) (event : SlotEvent α) : Prop :=
  ∀ slot ∈ w.slots, slot.key = event.slot → slot.mode = .traffic ∧ event = .connected slot.key

variable [Scalar α] [RandomSource ρ] {now : Millis}

/-- Nobody moves vehicles but those of the traffic. -/
theorem update_vacated (hw : w.Vacated) (h : Answers (w.update now) w') : w'.Vacated := by
  unfold update at h
  obtain ⟨slots, hslots, h⟩ := answers_bind h
  cases answers_pure h
  refine mapM_slots hw hslots fun slot slot' hvacated hslot => ?_
  rcases updateSlot_cases hslot with ⟨htraffic, outcome, hmoved⟩ | ⟨-, rfl⟩
  · exact Slot.vacated_of_traffic ((Slot.updateEach_persists hmoved).byTraffic.trans htraffic)
  · exact hvacated

theorem lookOut_vacated (hw : w.Vacated) (h : Answers (w.lookOut now) w') : w'.Vacated := by
  unfold lookOut at h
  obtain ⟨slots, hslots, h⟩ := answers_bind h
  cases answers_pure h
  refine mapM_slots hw hslots fun slot slot' hvacated hslot => ?_
  split at hslot
  · next htraffic =>
    have hdriver := (Slot.lookOut_persists hslot).byTraffic
    exact Slot.vacated_of_traffic (hdriver.trans htraffic)
  · rw [answers_pure hslot]
    exact hvacated

/-- A world that is set up has no vehicles at all. -/
theorem setUp_vacated (h : w.SetUp) : w.Vacated := by
  induction h with
  | made h =>
    unfold make at h
    split at h
    · cases answers_pure h
    · obtain ⟨-, -, h⟩ := answers_bind h
      cases answers_pure h
      exact fun slot hslot => absurd hslot (Array.not_mem_empty slot)
  | added h hw =>
    intro slot hslot
    rcases Array.mem_push.mp hslot with hold | rfl
    · exact hw slot hold
    · exact Slot.new_vacated

end World

namespace Session

variable {α ρ : Type} [Scalar α] {s s' : Session α ρ} {events : List (SlotEvent α)} {now : Millis}

/-! ## Events that change nothing -/

theorem handle_ignored {event : SlotEvent α} (hignores : s.world.Ignores event)
    (h : Answers (s.handle event) s') : s' = s := by
  cases hslot : s.world.slot? event.slot with
  | none => exact handle_unknown hslot h
  | some slot =>
    obtain ⟨hmode, rfl⟩ := hignores slot (World.slot?_mem hslot) (World.slot?_split hslot).1
    unfold handle World.demandSlot at h
    rw [hslot] at h
    obtain ⟨⟨admitted, taken⟩, htaken, h⟩ := answers_bind h
    have hadmitted := Slot.setControl_admitted htaken
    rw [hmode] at hadmitted
    obtain rfl : admitted = false := hadmitted
    obtain ⟨-, -, h⟩ := answers_bind h
    exact answers_pure h

/-- What changes nothing changes nothing after other events either. -/
theorem handle_ignores {event other : SlotEvent α} (hignores : s.world.Ignores event)
    (h : Answers (s.handle other) s') : s'.world.Ignores event := by
  rcases handle_world h with rfl | ⟨slot, slot', hslot, hhandles, hstore⟩
  · exact hignores
  · rw [hstore]
    intro found hfound hkey
    rcases World.mem_store hfound with hold | rfl
    · exact hignores found hold hkey
    · obtain ⟨hsameKey, hsameMode⟩ := hhandles.same
      rw [hsameKey, hsameMode]
      exact hignores slot (World.slot?_mem hslot) (hsameKey.symm.trans hkey)

/-- Handling events one after the other comes to the same with and without an event that changes
nothing. -/
theorem foldlM_handle_ignored {before after : List (SlotEvent α)} {event : SlotEvent α}
    (hignores : s.world.Ignores event) (t : Session α ρ) :
    Answers ((before ++ event :: after).foldlM handle s) t ↔
      Answers ((before ++ after).foldlM handle s) t := by
  have hall : ∀ (l : List (SlotEvent α)) (u : Session α ρ), Faultless (l.foldlM handle u) :=
    faultless_foldlM handle_faultless
  have hsame : ∀ {u u' : Session α ρ}, Answers ((before ++ event :: after).foldlM handle s) u →
      Answers ((before ++ after).foldlM handle s) u' → u = u' := by
    intro u u' hu hu'
    rw [List.foldlM_append] at hu hu'
    obtain ⟨v, hv, hu⟩ := answers_bind hu
    obtain ⟨v', hv', hu'⟩ := answers_bind hu'
    obtain rfl := (hall before s).unique hv hv'
    rw [List.foldlM_cons] at hu
    obtain ⟨v', hevent, hu⟩ := answers_bind hu
    have hunchanged : v.world.Ignores event := answers_foldlM
      (P := fun v : Session α ρ => v.world.Ignores event)
      (fun _ _ _ _ hv hstep => handle_ignores hv hstep) hignores hv
    rw [handle_ignored hunchanged hevent] at hu
    exact (hall after v).unique hu hu'
  -- both lists can be handled, and so what comes of one of them comes of the other
  obtain ⟨u, hu⟩ := (hall (before ++ event :: after) s).answers
  obtain ⟨u', hu'⟩ := (hall (before ++ after) s).answers
  constructor
  · intro ht
    rw [hsame ht hu']
    exact hu'
  · intro ht
    rw [← hsame hu ht]
    exact hu

/-- Where an event changes nothing, the events before and after it are handled as they would be
without it. -/
theorem handleEvents_ignored {before after : List (SlotEvent α)} {event : SlotEvent α}
    (hevents : s.orchestrator.events.toList = before ++ event :: after)
    (hignores : s.world.Ignores event) (t : Session α ρ) :
    Answers s.handleEvents t ↔ Answers (handleEvents { s with orchestrator :=
      { s.orchestrator with events := (before ++ after).toArray } }) t := by
  have hqueue : s.handleEvents = (before ++ event :: after).foldlM handle
      { s with orchestrator := { s.orchestrator with events := #[] } } := by
    rw [← hevents]
    rfl
  rw [hqueue]
  exact foldlM_handle_ignored
    (s := { s with orchestrator := { s.orchestrator with events := #[] } }) hignores t

/-! ## Every step keeps slots vacated -/

theorem handle_vacated {event : SlotEvent α} (hs : s.world.Vacated)
    (h : Answers (s.handle event) s') : s'.world.Vacated := by
  rcases handle_world h with rfl | ⟨slot, slot', hslot, hhandles, hstore⟩
  · exact hs
  · rw [hstore]
    exact hs.store (hhandles.vacated (hs slot (World.slot?_mem hslot)))

theorem handleEvents_vacated (hs : s.world.Vacated) (h : Answers s.handleEvents s') :
    s'.world.Vacated := by
  unfold handleEvents at h
  exact answers_foldlM (P := fun s => s.world.Vacated)
    (fun event _ before after hbefore hstep => handle_vacated hbefore hstep) hs h

variable [RandomSource ρ]

theorem distributeIfDue_vacated (hs : s.world.Vacated) (h : Answers (s.distributeIfDue now) s') :
    s'.world.Vacated := by
  refine distributeIfDue_slots (P := Slot.Vacated) ?_ hs h
  intro slot slot' target htraffic _ hslot'
  obtain ⟨-, -, hdriver, -⟩ := setTarget_keeps hslot'
  exact Slot.vacated_of_traffic (hdriver.trans htraffic)

omit [RandomSource ρ] in
theorem removeUnsafe_vacated {w w' : World α ρ} (hw : w.Vacated) (h : Answers (removeUnsafe w) w') :
    w'.Vacated := by
  intro slot' hslot'
  obtain ⟨slot, hslot, ⟨htraffic, count, hleft⟩ | ⟨-, rfl⟩⟩ := removeUnsafe_slot h hslot'
  · exact Slot.vacated_of_traffic ((Slot.removeUnsafe_persists hleft).byTraffic.trans htraffic)
  · exact hw slot' hslot

/-- Vehicles are placed in slots of the traffic only. -/
theorem spawnStep_vacated {w w' : World α ρ} (hnodup : w.keys.Nodup) (hw : w.Vacated)
    (h : SpawnStep now w w') : w'.Vacated := by
  cases h with
  | tried hslot htry =>
    exact hw.store ((hw _ (World.slot?_mem hslot)).subset (Slot.canPlace_persists htry).byTraffic
      fun _ => Slot.canPlace_placed htry)
  | placed hslot hdriven hadmitted hv hplace =>
    obtain ⟨other, hother, hkey⟩ := List.mem_map.mp hdriven
    obtain ⟨hmem, htraffic⟩ := List.mem_filter.mp hother
    obtain rfl := World.slot?_eq_of_mem hnodup hslot (Array.mem_toList_iff.mp hmem) hkey
    exact hw.store (Slot.vacated_of_traffic htraffic)

theorem spawned_vacated {w w' : World α ρ} (hnodup : w.keys.Nodup) (hw : w.Vacated)
    (h : Spawned now w w') : w'.Vacated := by
  induction h with
  | refl => exact hw
  | tail hsteps hstep ih =>
    refine spawnStep_vacated ?_ ih hstep
    rw [(spawned_persists hsteps).keys]
    exact hnodup

theorem tick_vacated {outcome : Except DeadEnd Nat} (hsound : s.world.Sound)
    (hs : s.world.Vacated) (h : Answers (s.tick now) (outcome, s')) : s'.world.Vacated := by
  obtain ⟨s₁, s₂, h₁, h₂, h⟩ := tick_cases h
  have hsound₂ := distributeIfDue_sound (handleEvents_sound hsound h₁) h₂
  have hvacated₂ := distributeIfDue_vacated (handleEvents_vacated hs h₁) h₂
  obtain ⟨⟨w, hremoved, hspawned⟩, -⟩ := spawn_steps h
  have hsound' := (removeUnsafe_persists hremoved).sound hsound₂
  exact spawned_vacated hsound'.nodup (removeUnsafe_vacated hvacated₂ hremoved) hspawned

theorem act_vacated {a : Action α} (hsound : s.world.Sound) (hs : s.world.Vacated)
    (h : Answers (s.act a) s') : s'.world.Vacated := by
  cases a with
  | send event =>
    cases answers_pure h
    exact hs
  | setDensity density =>
    rw [answers_pure h, setDensity_world]
    exact hs
  | setHour hour =>
    rw [answers_pure h]
    show (s.setDensity _).world.Vacated
    rw [setDensity_world]
    exact hs
  | tick now =>
    obtain ⟨⟨outcome, after⟩, hafter, rfl⟩ := answers_map h
    exact tick_vacated hsound hs hafter
  | update now =>
    obtain ⟨w, hw, h⟩ := answers_bind h
    rw [answers_pure h]
    exact World.update_vacated hs hw
  | lookOut now =>
    obtain ⟨w, hw, h⟩ := answers_bind h
    rw [answers_pure h]
    exact World.lookOut_vacated hs (answers_lift hw)

/-- Whatever is done to a session, players have their slots alone. -/
theorem reachable_vacated (h : Reachable s) : s.world.Vacated := by
  induction h with
  | begun h => exact World.setUp_vacated h
  | acted h hact ih => exact act_vacated (reachable_sound h) ih hact

/-- A session with a history has been reached. -/
theorem History.reachable (h : History s events) : Reachable s := by
  induction h with
  | begun h => exact .begun h
  | acted _ hact ih => exact .acted ih hact

/-- **Control follows the mode.** After a tick all events have been handled. The traffic drives no
slot for players only and every slot for itself only, and a shared slot exactly if the last player
who came or went did not come. Where it does not drive, no vehicle is on the road.

The events that have come in can be handled in any case, and those that concern no slot, or that
tell of a player who comes to a slot for the traffic only, make no difference. -/
theorem control_of_tick (hs : History s events) :
    (∀ now outcome s', Answers (s.tick now) (outcome, s') →
      s'.orchestrator.events = #[] ∧
      ∀ slot ∈ s'.world.slots,
        (slot.mode = .players → slot.byTraffic = false) ∧
        (slot.mode = .traffic → slot.byTraffic = true) ∧
        (slot.mode = .shared → slot.byTraffic = !joined slot.key events) ∧
        (slot.byTraffic = false → slot.placed = [])) ∧
    (∃ t, Answers s.handleEvents t) ∧
    ∀ before event after, s.orchestrator.events.toList = before ++ event :: after →
      s.world.Ignores event → ∀ t, Answers s.handleEvents t ↔
        Answers (handleEvents { s with orchestrator :=
          { s.orchestrator with events := (before ++ after).toArray } }) t := by
  refine ⟨fun now outcome s' h => ?_, handleEvents_answers s,
    fun before event after hevents hignores => handleEvents_ignored hevents hignores⟩
  obtain ⟨hfollows, hnone⟩ := tick_told (history_told hs) h
  have hvacated := tick_vacated (history_told hs).sound (reachable_vacated hs.reachable) h
  refine ⟨hnone, fun slot hslot => ⟨fun hmode => ?_, (hfollows slot hslot).traffic,
    fun hmode => ?_, hvacated slot hslot⟩⟩
  · exact ((hfollows slot hslot).players hmode).1
  · exact ((hfollows slot hslot).shared hmode).1

/-! A player drives near a shared slot, so that one of its vehicles appears. Then others come: to a
slot that there is not, to a slot for the traffic only, and to the shared slot. -/

private def meetingSettings : Settings Rat :=
  { Settings.standard with
    speedVariation := 0
    playerClearance := 0
    spawnDistance := ⟨0, 0⟩ }

private def meetingWorld : World Rat (Tape fun _ _ => 0) where
  map := sideBySide
  settings := meetingSettings
  slots := #[]
  random := RandomSource.seeded 0

private def approach : SlotEvent Rat :=
  .moved (SlotKey.nth 0) { Status.unknown with velocity := ⟨0, 0, 10⟩ } 0

private def meeting : Session Rat (Tape fun _ _ => 0) :=
  (ofWorld (((meetingWorld.addSlot "player" "" .players).addSlot "car" "" .shared).addSlot "bus" ""
    .traffic)).send approach

private theorem meeting_history : History meeting [approach] :=
  (History.begun (.added (.added (.added (World.setUp_of_check (by decide +kernel)))))).sends
    [approach]

/-- What comes of a first tick. -/
private def beforeMeeting : Except DeadEnd Nat × Session Rat (Tape fun _ _ => 0) :=
  answerOf (meeting.tick 0) (by decide +kernel)

private def newcomers : List (SlotEvent Rat) :=
  [.connected (SlotKey.nth 7), .connected (SlotKey.nth 2), .connected (SlotKey.nth 1)]

private def meeting₁ : Session Rat (Tape fun _ _ => 0) :=
  newcomers.foldl (fun s event => s.send event) beforeMeeting.2

private theorem meeting₁_history : History meeting₁ ([approach] ++ newcomers) := by
  have hanswer : Answers (meeting.tick 0) beforeMeeting := answers_answerOf _
  have hticked : History beforeMeeting.2 [approach] :=
    meeting_history.acted (a := .tick 0) (answers_map_of hanswer (·.2))
  exact hticked.sends newcomers

/-- What comes of the tick after they have come. -/
private def afterMeeting : Except DeadEnd Nat × Session Rat (Tape fun _ _ => 0) :=
  answerOf (meeting₁.tick 500) (by decide +kernel)

/-- The shared slot. -/
private def meetingSlot (s : Session Rat (Tape fun _ _ => 0)) (h : 1 < s.world.slots.size) :
    Slot Rat (Tape fun _ _ => 0) := s.world.slots[1]

/-- How it is before the others come. -/
private def slotBefore : Slot Rat (Tape fun _ _ => 0) := meetingSlot meeting₁ (by decide +kernel)

/-- How it is afterwards. -/
private def slotAfter : Slot Rat (Tape fun _ _ => 0) :=
  meetingSlot afterMeeting.2 (by decide +kernel)

/-- A player who comes to the shared slot finds its vehicle gone, whoever else has come. -/
theorem control_of_tick_shared :
    History meeting₁ ([approach] ++ newcomers) ∧
      slotBefore.placed.length = 1 ∧
      slotAfter.pool.length = 1 ∧
      slotAfter.byTraffic = false ∧
      slotAfter.placed = [] ∧
      ∀ t, Answers meeting₁.handleEvents t ↔ Answers (handleEvents { meeting₁ with orchestrator :=
        { meeting₁.orchestrator with
          events := #[.connected (SlotKey.nth 7), .connected (SlotKey.nth 1)] } }) t := by
  have hempty : beforeMeeting.2.orchestrator.events = #[] :=
    ((control_of_tick meeting_history).1 0 _ _ (answers_answerOf _)).1
  have hqueue : meeting₁.orchestrator.events.toList = newcomers := by
    show (((Array.push _ _).push _).push _).toList = _
    rw [hempty]
    rfl
  obtain ⟨hticks, -, hignored⟩ := control_of_tick meeting₁_history
  obtain ⟨-, hslots⟩ := hticks 500 _ afterMeeting.2 (answers_answerOf _)
  obtain ⟨-, -, hshared, hvacated⟩ := hslots slotAfter (Array.getElem_mem _)
  have hplayer : slotAfter.byTraffic = false := by
    rw [hshared (by decide +kernel)]
    decide +kernel
  have htraffic : ∀ slot ∈ meeting₁.world.slots.toList, slot.key = SlotKey.nth 2 →
      slot.mode = .traffic := by decide +kernel
  refine ⟨meeting₁_history, by decide +kernel, by decide +kernel, hplayer, hvacated hplayer,
    hignored [.connected (SlotKey.nth 7)] (.connected (SlotKey.nth 2)) [.connected (SlotKey.nth 1)]
      hqueue fun slot hslot hkey => ⟨htraffic slot (Array.mem_toList_iff.mpr hslot) hkey, ?_⟩⟩
  rw [hkey]
  rfl

end Session

end RoadTraffic
