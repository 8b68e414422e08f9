import RoadTraffic.Proofs.Orchestrator.Targets

/-!
# Who drives, by the events alone

Whether a player has come to a slot and not gone is told by the events about the slot: the last one
of those who came or went tells it (`joined`). A slot's record follows the events one by one
(`Slot.Follows`), and so the players who are counted can be counted by the events
(`connectedPlayers_of_events`). Those are the players who have come and not gone, and one more at
each slot for players only that nobody has come to and that positions were reported of since
(`isHaunted`).
-/

namespace RoadTraffic

namespace SlotEvent

variable {α : Type}

/-- The player of the slot comes or goes. -/
def comesOrGoes (key : SlotKey) : SlotEvent α → Bool
  | connected slot => slot = key
  | disconnected slot => slot = key
  | moved .. => false

/-- A position is reported of the slot. -/
def reports (key : SlotKey) : SlotEvent α → Bool
  | moved slot .. => slot = key
  | _ => false

/-- The last player who came to the slot has not gone. -/
def joined (key : SlotKey) (events : List (SlotEvent α)) : Bool :=
  match (events.filter (comesOrGoes key)).getLast? with
  | some (connected _) => true
  | _ => false

/-- A position was reported of the slot since a player last came or went. -/
def reported (key : SlotKey) (events : List (SlotEvent α)) : Bool :=
  (events.reverse.takeWhile fun event => !event.comesOrGoes key).any (reports key)

variable {key : SlotKey} {event : SlotEvent α} {events : List (SlotEvent α)}

theorem joined_concat : joined key (events ++ [event]) =
    if event.comesOrGoes key then event matches connected _ else joined key events := by
  unfold joined
  rw [List.filter_append, List.filter_singleton]
  cases event.comesOrGoes key with
  | false => simp
  | true =>
    rw [cond_true, List.getLast?_concat]
    cases event <;> rfl

theorem reported_concat : reported key (events ++ [event]) =
    if event.comesOrGoes key then false else event.reports key || reported key events := by
  unfold reported
  rw [List.reverse_append, List.reverse_singleton, List.singleton_append, List.takeWhile_cons]
  cases event.comesOrGoes key <;> simp

/-- Events about other slots tell nothing about this one. -/
theorem about_other (h : event.slot ≠ key) :
    event.comesOrGoes key = false ∧ event.reports key = false := by
  cases event with
  | connected slot => exact ⟨decide_eq_false h, rfl⟩
  | disconnected slot => exact ⟨decide_eq_false h, rfl⟩
  | moved slot status time => exact ⟨rfl, decide_eq_false h⟩

end SlotEvent

theorem ControlMode.eq_traffic_of_refuses {mode : ControlMode} (h : mode.admits false = false) :
    mode = .traffic := by
  cases mode with
  | traffic => rfl
  | players => cases h
  | shared => cases h

theorem ControlMode.eq_players_of_refuses {mode : ControlMode} (h : mode.admits true = false) :
    mode = .players := by
  cases mode with
  | players => rfl
  | shared => cases h
  | traffic => cases h

open SlotEvent (joined reported joined_concat reported_concat)

namespace Slot

variable {α ρ : Type} {events : List (SlotEvent α)} {slot slot' : Slot α ρ}

/-- A player has come to the slot and not gone, and players may drive it. -/
def isJoined (events : List (SlotEvent α)) (slot : Slot α ρ) : Bool :=
  slot.mode != .traffic && joined slot.key events

/-- Nobody has come to a slot for players only and not gone, but positions were reported of it. -/
def isHaunted (events : List (SlotEvent α)) (slot : Slot α ρ) : Bool :=
  slot.mode == .players && !joined slot.key events && reported slot.key events

/-- The record of the slot's driver is what the events tell. -/
structure Follows (events : List (SlotEvent α)) (slot : Slot α ρ) : Prop where
  players : slot.mode = .players → slot.byTraffic = false ∧
    slot.player.isSome = (joined slot.key events || reported slot.key events)
  shared : slot.mode = .shared → slot.byTraffic = !joined slot.key events ∧
    (joined slot.key events = true → slot.player.isSome = true)
  traffic : slot.mode = .traffic → slot.byTraffic = true

/-- Whoever drives a slot has come to it and not gone, or haunts it. -/
theorem Follows.driven (h : slot.Follows events) :
    (!slot.byTraffic && slot.player.isSome) = (slot.isJoined events || slot.isHaunted events) := by
  unfold isJoined isHaunted
  cases hmode : slot.mode with
  | players =>
    obtain ⟨hdriver, hplayer⟩ := h.players hmode
    rw [hdriver, hplayer]
    cases joined slot.key events <;> simp
  | shared =>
    obtain ⟨hdriver, hplayer⟩ := h.shared hmode
    rw [hdriver]
    cases hjoined : joined slot.key events with
    | false => simp
    | true => simp [hplayer hjoined]
  | traffic => simp [h.traffic hmode]

/-- Of a new slot nothing has been told. -/
theorem new_follows [Scalar α] [RandomSource ρ] {key : SlotKey} {model skin : String}
    {mode : ControlMode} {settings : Settings α} {seed : UInt64} :
    (new key model skin mode settings seed : Slot α ρ).Follows [] := by
  refine ⟨fun hmode => ?_, fun hmode => ?_, fun hmode => ?_⟩
  · obtain rfl : mode = .players := hmode
    exact ⟨rfl, rfl⟩
  · obtain rfl : mode = .shared := hmode
    exact ⟨rfl, nofun⟩
  · obtain rfl : mode = .traffic := hmode
    rfl

/-- The record follows as long as the key, the mode, the driver and the player stay. -/
theorem Follows.congr (h : slot.Follows events) (hkey : slot'.key = slot.key)
    (hmode : slot'.mode = slot.mode) (hdriver : slot'.byTraffic = slot.byTraffic)
    (hplayer : slot'.player = slot.player) : slot'.Follows events := by
  refine ⟨?_, ?_, ?_⟩ <;> rw [hmode, hdriver]
  · rw [hkey, hplayer]
    exact h.players
  · rw [hkey, hplayer]
    exact h.shared
  · exact h.traffic

/-- Whatever is told of a slot for the traffic only, the traffic drives it. -/
theorem Follows.of_traffic (h : slot.Follows events) (hmode : slot.mode = .traffic)
    (told : List (SlotEvent α)) : slot.Follows told := by
  refine ⟨fun hplayers => ?_, fun hshared => ?_, h.traffic⟩
  · exact absurd (hmode.symm.trans hplayers) (by decide)
  · exact absurd (hmode.symm.trans hshared) (by decide)

/-- An event about another slot changes nothing. -/
theorem Follows.other (h : slot.Follows events) {event : SlotEvent α}
    (hother : event.slot ≠ slot.key) :
    slot.Follows (events ++ [event]) := by
  obtain ⟨hcomes, hreports⟩ := SlotEvent.about_other hother
  have hjoined : joined slot.key (events ++ [event]) = joined slot.key events := by
    rw [joined_concat, hcomes, if_neg (by decide)]
  have hreported : reported slot.key (events ++ [event]) = reported slot.key events := by
    rw [reported_concat, hcomes, hreports, if_neg (by decide), Bool.false_or]
  refine ⟨?_, ?_, h.traffic⟩ <;> rw [hjoined]
  · rw [hreported]
    exact h.players
  · exact h.shared

/-- A player comes to a slot that players may drive. -/
theorem connected_follows [Scalar α] (hmode : slot.mode ≠ .traffic)
    (hslot : Persists { slot with byTraffic := false } slot') :
    Follows (events ++ [.connected slot.key]) { slot' with player := some .silent } := by
  have hkey : slot'.key = slot.key := hslot.key
  have hjoined : joined slot'.key (events ++ [.connected slot.key]) = true := by
    rw [joined_concat, hkey]
    simp [SlotEvent.comesOrGoes]
  refine ⟨fun _ => ⟨hslot.byTraffic, ?_⟩, fun _ => ⟨?_, fun _ => rfl⟩, fun htraffic => ?_⟩
  · rw [show joined _ _ = true from hjoined]
    rfl
  · rw [show joined _ _ = true from hjoined]
    exact hslot.byTraffic
  · exact absurd (hslot.mode.symm.trans htraffic) hmode

/-- The player of a slot goes, and a slot that the traffic may drive goes to the traffic. -/
theorem disconnected_follows (h : slot.Follows events)
    (hslot : slot.mode = .players ∧ slot' = { slot with player := none } ∨
      slot.mode ≠ .players ∧ Persists { slot with player := none, byTraffic := true } slot') :
    slot'.Follows (events ++ [.disconnected slot.key]) := by
  have hjoined : joined slot.key (events ++ [.disconnected slot.key]) = false := by
    rw [joined_concat]
    simp [SlotEvent.comesOrGoes]
  have hreported : reported slot.key (events ++ [.disconnected slot.key]) = false := by
    rw [reported_concat]
    simp [SlotEvent.comesOrGoes]
  rcases hslot with ⟨hmode, rfl⟩ | ⟨hmode, hpersists⟩
  · refine ⟨fun _ => ⟨(h.players hmode).1, ?_⟩, fun hshared => ?_, fun htraffic => ?_⟩
    · show _ = (joined slot.key _ || reported slot.key _)
      rw [hjoined, hreported]
      rfl
    · exact absurd (hmode.symm.trans hshared) (by decide)
    · exact absurd (hmode.symm.trans htraffic) (by decide)
  · have hkey : slot'.key = slot.key := hpersists.key
    refine ⟨fun hplayers => ?_, fun _ => ?_, fun _ => hpersists.byTraffic⟩
    · exact absurd (hpersists.mode.symm.trans hplayers) hmode
    · rw [hkey, hjoined]
      exact ⟨hpersists.byTraffic, fun hfalse => nomatch hfalse⟩

/-- A position is reported of a slot. -/
theorem moved_follows (h : slot.Follows events) (status : Status α) (time : Millis) :
    (slot.hearPlayer status time).Follows (events ++ [.moved slot.key status time]) := by
  have hjoined : joined slot.key (events ++ [.moved slot.key status time]) =
      joined slot.key events := by
    rw [joined_concat]
    simp [SlotEvent.comesOrGoes]
  have hreported : reported slot.key (events ++ [.moved slot.key status time]) = true := by
    rw [reported_concat]
    simp [SlotEvent.comesOrGoes, SlotEvent.reports]
  refine ⟨fun hmode => ⟨(h.players hmode).1, ?_⟩, fun hmode => ⟨?_, fun _ => rfl⟩, h.traffic⟩
  · show _ = (_ || reported slot.key _)
    rw [hreported, Bool.or_true]
    rfl
  · show _ = !joined slot.key _
    rw [hjoined]
    exact (h.shared hmode).1

/-- Control is handed over exactly if the mode of the slot admits it. -/
theorem setControl_admitted [Scalar α] {byTraffic admitted : Bool}
    (h : Answers (slot.setControl byTraffic) (admitted, slot')) :
    admitted = slot.mode.admits byTraffic := by
  unfold setControl at h
  split at h
  · next hrefused =>
    cases answers_pure h
    rw [Bool.not_eq_true'] at hrefused
    exact hrefused.symm
  · next hadmits =>
    rw [Bool.not_eq_true', Bool.not_eq_false] at hadmits
    split at h
    · cases answers_pure h
      exact hadmits.symm
    · obtain ⟨-, -, h⟩ := answers_bind h
      cases answers_pure h
      exact hadmits.symm

/-- What becomes of a slot with an event about it. -/
inductive Handles [Scalar α] (slot : Slot α ρ) : SlotEvent α → Slot α ρ → Prop
  /-- A player comes to a slot for the traffic only. -/
  | refused (hmode : slot.mode = .traffic) : Handles slot (.connected slot.key) slot
  | taken {slot' : Slot α ρ} (hmode : slot.mode ≠ .traffic)
    (h : Answers (slot.setControl false) (true, slot')) :
    Handles slot (.connected slot.key) { slot' with player := some .silent }
  /-- A player leaves a slot for players only. -/
  | left (hmode : slot.mode = .players) :
    Handles slot (.disconnected slot.key) { slot with player := none }
  | returned {slot' : Slot α ρ} (hmode : slot.mode ≠ .players)
    (h : Answers (setControl true { slot with player := none }) (true, slot')) :
    Handles slot (.disconnected slot.key) slot'
  | heard (status : Status α) (time : Millis) :
    Handles slot (.moved slot.key status time) (slot.hearPlayer status time)

/-- Control that is handed over changes apart from the driver only where the vehicles are. -/
theorem setControl_persists [Scalar α] {byTraffic : Bool}
    (h : Answers (slot.setControl byTraffic) (true, slot')) :
    Persists { slot with byTraffic } slot' := by
  rcases Session.setControl_cases h with ⟨hrefused, -⟩ | ⟨-, hpersists⟩
  · cases hrefused
  · exact hpersists

/-- The key and the mode of a slot stay. -/
theorem Handles.same [Scalar α] {event : SlotEvent α} (h : slot.Handles event slot') :
    slot'.key = slot.key ∧ slot'.mode = slot.mode := by
  cases h with
  | refused hmode => exact ⟨rfl, rfl⟩
  | taken hmode h => exact ⟨(setControl_persists h).key, (setControl_persists h).mode⟩
  | left hmode => exact ⟨rfl, rfl⟩
  | returned hmode h => exact ⟨(setControl_persists h).key, (setControl_persists h).mode⟩
  | heard status time => exact ⟨rfl, rfl⟩

theorem Handles.follows [Scalar α] {event : SlotEvent α} (h : slot.Handles event slot')
    (hfollows : slot.Follows events) : slot'.Follows (events ++ [event]) := by
  cases h with
  | refused hmode => exact hfollows.of_traffic hmode _
  | taken hmode h => exact connected_follows hmode (setControl_persists h)
  | left hmode => exact disconnected_follows hfollows (Or.inl ⟨hmode, rfl⟩)
  | returned hmode h => exact disconnected_follows hfollows (Or.inr ⟨hmode, setControl_persists h⟩)
  | heard status time => exact moved_follows hfollows status time

end Slot

/-- The records of all slots are what the events tell. -/
def World.Follows {α ρ : Type} (events : List (SlotEvent α)) (w : World α ρ) : Prop :=
  ∀ slot ∈ w.slots, slot.Follows events

namespace World

variable {α ρ : Type} {events : List (SlotEvent α)} {w w' : World α ρ}

/-- What happens to the vehicles alone changes no record. -/
theorem Follows.persists (h : w.Follows events) (hworld : w.Persists w') : w'.Follows events := by
  intro slot' hslot'
  obtain ⟨slot, hslot, hpersists⟩ := hworld.slot hslot'
  exact (h slot hslot).congr hpersists.key hpersists.mode hpersists.byTraffic hpersists.player

/-- Of a world that nothing was told of, every slot is a new one. -/
theorem setUp_follows [Scalar α] [RandomSource ρ] (h : w.SetUp) : w.Follows [] := by
  induction h with
  | made h =>
    unfold make at h
    split at h
    · cases answers_pure h
    · obtain ⟨-, -, h⟩ := answers_bind h
      cases answers_pure h
      exact fun slot hslot => absurd hslot (Array.not_mem_empty slot)
  | @added model skin mode w h hw =>
    intro slot hslot
    rcases Array.mem_push.mp hslot with hold | rfl
    · exact hw slot hold
    · exact Slot.new_follows

/-! ## Counting -/

/-- Who is counted has come and not gone, or haunts a slot. -/
theorem Follows.connectedPlayers (h : w.Follows events) :
    w.connectedPlayers = (w.slots.toList.filter (·.isJoined events)).length +
      (w.slots.toList.filter (·.isHaunted events)).length := by
  have hdriven : w.connectedPlayers = (w.slots.toList.filter fun slot =>
      slot.isJoined events || slot.isHaunted events).length := by
    unfold World.connectedPlayers
    rw [List.filter_congr fun slot hslot =>
      (h slot (Array.mem_toList_iff.mp hslot)).driven]
  rw [hdriven, List.length_eq_length_filter_add (fun slot => joined slot.key events),
    List.filter_filter, List.filter_filter]
  -- nobody who haunts a slot has come to it
  congr 2
  all_goals
    refine List.filter_congr fun slot _ => ?_
    unfold Slot.isJoined Slot.isHaunted
    cases joined slot.key events <;> simp

/-- Who is active is among those who are counted. -/
theorem Follows.activePlayers (h : w.Follows events) [Scalar α] {now : Millis}
    {entry : SlotKey × Player α} (hentry : entry ∈ w.activePlayers now) :
    ∃ slot ∈ w.slots, slot.key = entry.1 ∧
      (slot.isJoined events = true ∨ slot.isHaunted events = true) := by
  unfold World.activePlayers at hentry
  obtain ⟨slot, hslot, hplayer⟩ := List.mem_filterMap.mp (List.mem_filter.mp hentry).1
  obtain ⟨hmem, hdriver⟩ := List.mem_filter.mp hslot
  obtain ⟨player, hsome, rfl⟩ := Option.map_eq_some_iff.mp hplayer
  refine ⟨slot, Array.mem_toList_iff.mp hmem, rfl, ?_⟩
  have hdriven := (h slot (Array.mem_toList_iff.mp hmem)).driven
  rw [hdriver, hsome] at hdriven
  exact Bool.or_eq_true_iff.mp hdriven.symm

end World

namespace Session

variable {α ρ : Type} [Scalar α] {s s' : Session α ρ} {events : List (SlotEvent α)}

/-- An event about a slot changes no other slot. -/
theorem handle_slot {event : SlotEvent α} {slot : Slot α ρ}
    (hslot : s.world.slot? event.slot = some slot) (h : Answers (s.handle event) s') :
    ∃ slot', slot.Handles event slot' ∧ s'.world = s.world.store slot' := by
  have hkey : slot.key = event.slot := (World.slot?_split hslot).1
  unfold handle World.demandSlot at h
  rw [hslot] at h
  cases event with
  | connected key =>
    obtain rfl : slot.key = key := hkey
    obtain ⟨⟨admitted, taken⟩, htaken, h⟩ := answers_bind h
    have hadmitted := Slot.setControl_admitted htaken
    cases admitted with
    | false =>
      obtain ⟨-, -, h⟩ := answers_bind h
      rw [answers_pure h]
      exact ⟨slot, .refused (ControlMode.eq_traffic_of_refuses hadmitted.symm),
        (World.store_self hslot).symm⟩
    | true =>
      have hmode : slot.mode ≠ .traffic := by
        intro htraffic
        rw [htraffic] at hadmitted
        cases hadmitted
      rw [answers_pure h]
      exact ⟨_, .taken hmode htaken, rfl⟩
  | disconnected key =>
    obtain rfl : slot.key = key := hkey
    unfold handleFor at h
    dsimp only at h
    split at h
    · next hmode =>
      obtain ⟨left, hleft, h⟩ := answers_bind h
      cases answers_pure hleft
      rw [answers_pure h]
      exact ⟨_, .left hmode, rfl⟩
    · next hmode =>
      obtain ⟨left, hleft, h⟩ := answers_bind h
      obtain ⟨⟨admitted, taken⟩, htaken, rfl⟩ := answers_map hleft
      have hadmitted := Slot.setControl_admitted htaken
      rw [answers_pure h]
      cases admitted with
      | false => exact absurd (ControlMode.eq_players_of_refuses hadmitted.symm) hmode
      | true => exact ⟨left, .returned hmode htaken, rfl⟩
  | moved key status time =>
    obtain rfl : slot.key = key := hkey
    rw [answers_pure h]
    exact ⟨_, .heard status time, rfl⟩

/-- An event changes nothing, or the slot that it is about. -/
theorem handle_world {event : SlotEvent α} (h : Answers (s.handle event) s') :
    s' = s ∨ ∃ slot slot', s.world.slot? event.slot = some slot ∧ slot.Handles event slot' ∧
      s'.world = s.world.store slot' := by
  cases hslot : s.world.slot? event.slot with
  | none => exact Or.inl (handle_unknown hslot h)
  | some slot =>
    obtain ⟨slot', hhandles, hstore⟩ := handle_slot hslot h
    exact Or.inr ⟨slot, slot', rfl, hhandles, hstore⟩

theorem handle_follows {event : SlotEvent α} (hsound : s.world.Sound)
    (hs : s.world.Follows events) (h : Answers (s.handle event) s') :
    s'.world.Follows (events ++ [event]) := by
  cases hslot : s.world.slot? event.slot with
  | none =>
    rw [handle_unknown hslot h]
    intro other hother
    refine (hs other hother).other fun hkey => ?_
    have hdiffers := Array.find?_eq_none.mp hslot other hother
    exact hdiffers (decide_eq_true hkey.symm)
  | some slot =>
    obtain ⟨slot', hhandles, hstore⟩ := handle_slot hslot h
    rw [hstore]
    intro other hother
    rcases World.mem_store_of_nodup hsound.nodup hslot hhandles.same.1 hother with
      rfl | ⟨hold, hdiffers⟩
    · exact hhandles.follows (hs slot (World.slot?_mem hslot))
    · refine (hs other hold).other fun heq => hdiffers ?_
      rw [← heq, (World.slot?_split hslot).1]

/-- Handling an event leaves those that are to be handled later. -/
theorem handle_events {event : SlotEvent α} (h : Answers (s.handle event) s') :
    s'.orchestrator.events = s.orchestrator.events := by
  rcases handle_cases h with ⟨-, rfl⟩ | ⟨key, -, rfl⟩ | ⟨slot, slot', -, -, -, rfl⟩ |
    ⟨key, status, time, slot, -, -, rfl⟩ <;> rfl

/-- Events handled one after the other. -/
theorem handled_follows {later : List (SlotEvent α)} {n : Nat} (hsound : s.world.Sound)
    (hs : s.world.Follows events) (h : Handled s later s' n) :
    s'.world.Follows (events ++ later) ∧ s'.orchestrator.events = s.orchestrator.events := by
  induction h generalizing events with
  | done =>
    rw [List.append_nil]
    exact ⟨hs, rfl⟩
  | next hstep hrest ih =>
    obtain ⟨hfollows, hevents⟩ := ih (handle_sound hsound hstep) (handle_follows hsound hs hstep)
    rw [List.append_assoc, List.singleton_append] at hfollows
    exact ⟨hfollows, hevents.trans (handle_events hstep)⟩

/-- The records of the slots are what all events tell but those that are still to be handled. -/
structure Told (events : List (SlotEvent α)) (s : Session α ρ) : Prop where
  sound : s.world.Sound
  follows : ∃ told, events = told ++ s.orchestrator.events.toList ∧ s.world.Follows told

theorem handleEvents_told (hs : s.Told events) (h : Answers s.handleEvents s') :
    s'.world.Follows events ∧ s'.orchestrator.events = #[] := by
  obtain ⟨told, rfl, hfollows⟩ := hs.follows
  unfold handleEvents at h
  obtain ⟨n, hhandled⟩ := handled_of_foldlM h
  exact handled_follows (s := { s with orchestrator := { s.orchestrator with events := #[] } })
    hs.sound hfollows hhandled

/-! ## Events can be handled -/

theorem setControl_faultless (slot : Slot α ρ) (byTraffic : Bool) :
    Faultless (slot.setControl byTraffic) := by
  unfold Slot.setControl
  split
  · exact faultless_pure _
  · split
    · exact faultless_pure _
    · exact (faultless_note _).bind fun _ => faultless_pure _

theorem handle_faultless (s : Session α ρ) (event : SlotEvent α) : Faultless (s.handle event) := by
  unfold handle
  split
  · next slot _ =>
    cases event with
    | connected key =>
      refine (setControl_faultless slot false).bind fun taken => ?_
      split
      split
      · exact faultless_pure _
      · exact (faultless_note _).bind fun _ => faultless_pure _
    | disconnected key =>
      unfold handleFor
      dsimp only
      split
      · exact (faultless_pure _).bind fun _ => faultless_pure _
      · exact ((setControl_faultless _ true).map _).bind fun _ => faultless_pure _
    | moved key status time => exact faultless_pure _
  · exact (faultless_note _).bind fun _ => faultless_pure _

theorem handleEvents_faultless (s : Session α ρ) : Faultless s.handleEvents :=
  faultless_foldlM handle_faultless _ _

/-- Whatever has come in, it can be handled. -/
theorem handleEvents_answers (s : Session α ρ) : ∃ s', Answers s.handleEvents s' :=
  (handleEvents_faultless s).answers

/-! ## Ticks -/

variable [RandomSource ρ]

theorem distributeIfDue_follows {now : Millis} (hs : s.world.Follows events)
    (h : Answers (s.distributeIfDue now) s') : s'.world.Follows events := by
  refine distributeIfDue_slots (P := Slot.Follows events) ?_ hs h
  intro slot slot' target _ hfollows hslot'
  obtain ⟨hkey, hmode, hdriver, hplayer, -⟩ := setTarget_keeps hslot'
  exact hfollows.congr hkey hmode hdriver hplayer

/-- A tick handles all events that are there. -/
theorem tick_told {now : Millis} {outcome : Except DeadEnd Nat} (hs : s.Told events)
    (h : Answers (s.tick now) (outcome, s')) :
    s'.world.Follows events ∧ s'.orchestrator.events = #[] := by
  obtain ⟨s₁, s₂, h₁, h₂, h⟩ := tick_cases h
  obtain ⟨hfollows, hnone⟩ := handleEvents_told hs h₁
  have hfollows₂ := distributeIfDue_follows hfollows h₂
  obtain ⟨-, random, overlay, horchestrator⟩ := spawn_steps h
  refine ⟨hfollows₂.persists (spawn_persists h), ?_⟩
  rw [horchestrator, ← hnone, ← distributeIfDue_events h₂]

/-! ## Courses of events -/

/-- The events that an action reports. -/
def Action.reported : Action α → List (SlotEvent α)
  | .send event => [event]
  | _ => []

/-- A session that actions have led to, and all events that were reported on the way. -/
inductive History : Session α ρ → List (SlotEvent α) → Prop
  | begun {w : World α ρ} (h : w.SetUp) : History (ofWorld w) []
  | acted {s s' : Session α ρ} {events : List (SlotEvent α)} {a : Action α} (h : History s events)
      (hact : Answers (s.act a) s') : History s' (events ++ a.reported)

omit [RandomSource ρ] in
/-- What leaves the events that are to be handled and changes no record keeps what is told. -/
theorem Told.keep (h : s.Told events) (hsound : s'.world.Sound)
    (hevents : s'.orchestrator.events = s.orchestrator.events)
    (hfollows : ∀ told, s.world.Follows told → s'.world.Follows told) : s'.Told events := by
  obtain ⟨told, htold, h⟩ := h.follows
  exact ⟨hsound, told, by rw [hevents, htold], hfollows told h⟩

omit [RandomSource ρ] in
theorem setDensity_told {density : α} (h : s.Told events) : (s.setDensity density).Told events := by
  unfold setDensity
  split
  · exact h.keep h.sound rfl fun _ hfollows => hfollows
  · exact h

theorem act_told {a : Action α} (h : s.Told events) (hact : Answers (s.act a) s') :
    s'.Told (events ++ a.reported) := by
  have hsound := act_sound h.sound hact
  have hquiet : a.reported = [] → s'.Told events → s'.Told (events ++ a.reported) := by
    intro hnone htold
    rw [hnone, List.append_nil]
    exact htold
  cases a with
  | send event =>
    obtain ⟨told, rfl, hfollows⟩ := h.follows
    cases answers_pure hact
    refine ⟨hsound, told, ?_, hfollows⟩
    show _ = told ++ (s.orchestrator.events.push event).toList
    rw [Array.toList_push, List.append_assoc]
    rfl
  | setDensity density =>
    refine hquiet rfl ?_
    rw [answers_pure hact]
    exact setDensity_told h
  | setHour hour =>
    refine hquiet rfl ?_
    rw [answers_pure hact]
    exact setDensity_told h
  | tick now =>
    obtain ⟨⟨outcome, after⟩, hafter, rfl⟩ := answers_map hact
    obtain ⟨hfollows, hnone⟩ := tick_told h hafter
    exact hquiet rfl ⟨hsound, events, by rw [hnone, List.append_nil], hfollows⟩
  | update now =>
    obtain ⟨w, hw, hact⟩ := answers_bind hact
    cases answers_pure hact
    exact hquiet rfl (h.keep hsound rfl fun _ hfollows =>
      hfollows.persists (World.update_persists hw))
  | lookOut now =>
    obtain ⟨w, hw, hact⟩ := answers_bind hact
    cases answers_pure hact
    exact hquiet rfl (h.keep hsound rfl fun _ hfollows =>
      hfollows.persists (World.lookOut_persists (answers_lift hw)))

/-- Every reachable session has such a history. -/
theorem history_of_reachable (h : Reachable s) : ∃ events, History s events := by
  induction h with
  | begun h => exact ⟨[], .begun h⟩
  | acted _ hact ih =>
    obtain ⟨events, hhistory⟩ := ih
    exact ⟨_, hhistory.acted hact⟩

/-- Whatever events are reported of a session, they make a history. -/
theorem History.sends (h : History s events) (later : List (SlotEvent α)) :
    History (later.foldl (fun s event => s.send event) s) (events ++ later) := by
  induction later generalizing s events with
  | nil =>
    rw [List.append_nil]
    exact h
  | cons event later ih =>
    have hnext := ih (h.acted (a := .send event) ⟨#[], #[], rfl⟩)
    rw [Action.reported, List.append_assoc] at hnext
    exact hnext

theorem history_told (h : History s events) : s.Told events := by
  induction h with
  | begun h => exact ⟨World.setUp_sound h, [], rfl, World.setUp_follows h⟩
  | acted _ hact ih => exact act_told ih hact

/-- **Who is counted as a player.** However the events of the slots are mixed: they can be handled,
and as soon as they are, at once or in a tick, the players who are counted are those who have come
to a slot that players may drive and not gone, and one for each slot for players only that is
haunted. Nobody else is active. -/
theorem connectedPlayers_of_events (hs : History s events) :
    (∃ drained, Answers s.handleEvents drained) ∧
      ∀ s', (Answers s.handleEvents s' ∨
          ∃ now outcome, Answers (s.tick now) (outcome, s')) →
        s'.world.connectedPlayers = (s'.world.slots.toList.filter (·.isJoined events)).length +
            (s'.world.slots.toList.filter (·.isHaunted events)).length ∧
          ∀ now, ∀ entry ∈ s'.world.activePlayers now, ∃ slot ∈ s'.world.slots,
            slot.key = entry.1 ∧
              (slot.isJoined events = true ∨ slot.isHaunted events = true) := by
  refine ⟨handleEvents_answers s, fun s' hdone => ?_⟩
  have hfollows : s'.world.Follows events := by
    rcases hdone with hevents | ⟨now, outcome, htick⟩
    · exact (handleEvents_told (history_told hs) hevents).1
    · exact (tick_told (history_told hs) htick).1
  exact ⟨hfollows.connectedPlayers, fun now entry hentry => hfollows.activePlayers hentry⟩

/-! One slot is for players only, the other one is shared with the traffic. -/

private def parking : World Rat (Tape fun _ _ => 0) where
  map := sideBySide
  settings := .standard
  slots := #[]
  random := RandomSource.seeded 0

private def parked (events : List (SlotEvent Rat)) : Session Rat (Tape fun _ _ => 0) :=
  events.foldl (fun s event => s.send event)
    (ofWorld ((parking.addSlot "own" "" .players).addSlot "shared" "" .shared))

private theorem parked_history (events : List (SlotEvent Rat)) : History (parked events) events :=
  History.sends (.begun (.added (.added (World.setUp_of_check (by decide +kernel))))) events

private def arrivals : List (SlotEvent Rat) :=
  [.moved (SlotKey.nth 1) .unknown 0, .connected (SlotKey.nth 0), .connected (SlotKey.nth 1)]

private theorem arrivals_handled : ((parked arrivals).handleEvents #[]).1.isOk = true := by
  decide +kernel

/-- Of two players one is heard of before coming. Both come, and both are counted. -/
theorem connectedPlayers_of_arrivals :
    History (parked arrivals) arrivals ∧
      Answers (parked arrivals).handleEvents (answerOf _ arrivals_handled) ∧
      (answerOf _ arrivals_handled).world.connectedPlayers = 2 := by
  have hhistory := parked_history arrivals
  have hanswer := answers_answerOf arrivals_handled
  obtain ⟨hplayers, -⟩ := (connectedPlayers_of_events hhistory).2 _ (Or.inl hanswer)
  refine ⟨hhistory, hanswer, hplayers.trans ?_⟩
  decide +kernel

private def departure : List (SlotEvent Rat) :=
  [.connected (SlotKey.nth 0), .disconnected (SlotKey.nth 0), .moved (SlotKey.nth 0) .unknown 500]

private theorem departure_handled : ((parked departure).handleEvents #[]).1.isOk = true := by
  decide +kernel

private def deserted : World Rat (Tape fun _ _ => 0) := (answerOf _ departure_handled).world

/-- A player has gone, but a last report comes in late: the player counts and is active again. -/
theorem connectedPlayers_of_departure :
    History (parked departure) departure ∧
      Answers (parked departure).handleEvents (answerOf _ departure_handled) ∧
      deserted.connectedPlayers ≠
        (deserted.slots.toList.filter (·.isJoined departure)).length ∧
      ∃ entry ∈ deserted.activePlayers 1000, ∀ slot ∈ deserted.slots.toList,
        slot.isJoined departure = false := by
  refine ⟨parked_history departure, answers_answerOf departure_handled, by decide +kernel, ?_⟩
  have hactive : (deserted.activePlayers 1000).head?.isSome = true := by decide +kernel
  obtain ⟨entry, hentry⟩ := Option.isSome_iff_exists.mp hactive
  have hnobody : deserted.slots.toList.all (!·.isJoined departure) = true := by decide +kernel
  refine ⟨entry, List.mem_of_head? hentry, fun slot hslot => ?_⟩
  exact Bool.not_eq_true' _ ▸ List.all_eq_true.mp hnobody slot hslot

end Session

end RoadTraffic
