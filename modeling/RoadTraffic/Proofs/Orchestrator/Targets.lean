import RoadTraffic.Proofs.Orchestrator.Distribute
import RoadTraffic.Proofs.Orchestrator.Reachable
import RoadTraffic.Proofs.Random.Tape
import RoadTraffic.Proofs.Roads.SideBySide

/-!
# Targets and players

How many vehicles the slots should have is worked out when a distribution is due, and kept until the
next one. In between the density and the drivers of the slots do not change, because every such
change makes the distribution stale, but the number of players may: who reports a position for a
slot that waits for a player has come without having connected, and that makes nothing stale.

So right after a tick the targets are the shares for all players but those who came unannounced
since the last distribution (`targets_of_tick`).
-/

namespace RoadTraffic

/-- How many players come unannounced with an event: one if it is a report, from somebody who has
not connected, for a slot that waits for a player. -/
def World.unannounced {α ρ : Type} (w : World α ρ) : SlotEvent α → Nat
  | .moved key _ _ =>
    match w.slot? key with
    | some slot => if !slot.byTraffic && slot.player.isNone then 1 else 0
    | none => 0
  | _ => 0

namespace Session

variable {α ρ : Type} [Scalar α] {s s' : Session α ρ} {missed : Nat}

/-- The shares of the slots for a number of players. -/
def fairTargets (s : Session α ρ) (players : Nat) : List Nat :=
  distribute
    (min (players * min s.vehiclesPerPlayer s.world.trafficSlots.length)
      s.world.settings.vehicleLimit)
    (s.world.trafficSlots.map (·.profile.vehicleLimit))

/-- The targets are the shares for all players but the missed ones. -/
structure Fits (missed : Nat) (s : Session α ρ) : Prop where
  missed_le : missed ≤ s.world.connectedPlayers
  targets : s.world.trafficSlots.map (·.target) =
    s.fairTargets (s.world.connectedPlayers - missed)

/-- The targets fit as far as the players are concerned who are not missed, or they are about to be
given anew. -/
def Tracks (missed : Nat) (s : Session α ρ) : Prop :=
  s.orchestrator.isStale = true ∨ s.Fits missed

/-! ## What shares depend on -/

theorem fairTargets_congr (s s' : Session α ρ) {players : Nat}
    (hsettings : s'.world.settings = s.world.settings)
    (hdensity : s'.orchestrator.density = s.orchestrator.density)
    (hlimits : s'.world.trafficSlots.map (·.profile.vehicleLimit) =
      s.world.trafficSlots.map (·.profile.vehicleLimit)) :
    s'.fairTargets players = s.fairTargets players := by
  have hlength : s'.world.trafficSlots.length = s.world.trafficSlots.length := by
    rw [← List.length_map (f := fun slot => slot.profile.vehicleLimit), hlimits, List.length_map]
  unfold fairTargets vehiclesPerPlayer
  rw [hsettings, hdensity, hlimits, hlength]

/-- What happens to the vehicles alone keeps the targets fitting. -/
theorem Fits.persists (h : s.Fits missed) (hworld : s.world.Persists s'.world)
    (hdensity : s'.orchestrator.density = s.orchestrator.density) : s'.Fits missed where
  missed_le := by
    rw [hworld.connectedPlayers]
    exact h.missed_le
  targets := by
    rw [hworld.targets, hworld.connectedPlayers, h.targets,
      fairTargets_congr s s' hworld.settings hdensity hworld.limits]

/-! ## Events -/

/-- A report changes the number of players by whoever comes unannounced. -/
theorem Fits.moved {key : SlotKey} {slot : Slot α ρ} {status : Status α} {time : Millis}
    (h : s.Fits missed) (hslot : s.world.slot? key = some slot) :
    Fits (missed + s.world.unannounced (.moved key status time))
      { s with world := s.world.store (slot.hearPlayer status time) } := by
  have hkey : (slot.hearPlayer status time).key = slot.key := rfl
  have hdriver : (slot.hearPlayer status time).byTraffic = slot.byTraffic := rfl
  have hcomes : World.drivers (slot.hearPlayer status time) =
      World.drivers slot + s.world.unannounced (.moved key status time) := by
    unfold World.unannounced World.drivers Slot.hearPlayer
    dsimp only
    rw [hslot]
    dsimp only
    cases slot.byTraffic with
    | true => rfl
    | false =>
      cases slot.player with
      | none => rfl
      | some player => rfl
  have hplayers := World.connectedPlayers_store hslot hkey
  have hle := h.missed_le
  constructor
  · show missed + s.world.unannounced _ ≤ (s.world.store _).connectedPlayers
    omega
  · have hleft : (s.world.store (slot.hearPlayer status time)).connectedPlayers -
        (missed + s.world.unannounced (.moved key status time)) =
        s.world.connectedPlayers - missed := by omega
    show ((s.world.store (slot.hearPlayer status time)).trafficSlots.map (·.target)) =
      fairTargets _ ((s.world.store (slot.hearPlayer status time)).connectedPlayers - _)
    rw [hleft, World.map_trafficSlots_store hslot hkey hdriver rfl, h.targets]
    exact (fairTargets_congr s { s with world := s.world.store _ } World.store_settings rfl
      (World.map_trafficSlots_store hslot hkey hdriver rfl)).symm

theorem handle_tracks {event : SlotEvent α} (h : s.Tracks missed)
    (hstep : Answers (s.handle event) s') : s'.Tracks (missed + s.world.unannounced event) := by
  rcases handle_cases hstep with ⟨hunknown, rfl⟩ | ⟨key, rfl, rfl⟩ |
    ⟨slot, slot', hslot, -, -, rfl⟩ | ⟨key, status, time, slot, rfl, hslot, rfl⟩
  · have hnobody : s'.world.unannounced event = 0 := by
      cases event with
      | moved key status time =>
        unfold World.unannounced
        dsimp only
        rw [show s'.world.slot? key = none from hunknown]
      | connected key => rfl
      | disconnected key => rfl
    rw [hnobody]
    exact h
  · exact h
  · exact Or.inl rfl
  · rcases h with hstale | hfits
    · exact Or.inl hstale
    · exact Or.inr (hfits.moved hslot)

/-- Handling a list of events leads from one session to another, and so many players come
unannounced. -/
inductive Handled : Session α ρ → List (SlotEvent α) → Session α ρ → Nat → Prop
  | done {s : Session α ρ} : Handled s [] s 0
  | next {s s₁ s' : Session α ρ} {event : SlotEvent α} {rest : List (SlotEvent α)} {n : Nat}
      (hstep : Answers (s.handle event) s₁) (hrest : Handled s₁ rest s' n) :
      Handled s (event :: rest) s' (s.world.unannounced event + n)

theorem handled_of_foldlM {events : List (SlotEvent α)} (h : Answers (events.foldlM handle s) s') :
    ∃ n, Handled s events s' n := by
  induction events generalizing s with
  | nil =>
    rw [List.foldlM_nil] at h
    rw [answers_pure h]
    exact ⟨0, .done⟩
  | cons event rest ih =>
    rw [List.foldlM_cons] at h
    obtain ⟨s₁, hstep, h⟩ := answers_bind h
    obtain ⟨n, hrest⟩ := ih h
    exact ⟨_, .next hstep hrest⟩

theorem handled_tracks {events : List (SlotEvent α)} {n : Nat} (h : s.Tracks missed)
    (hevents : Handled s events s' n) : s'.Tracks (missed + n) := by
  induction hevents generalizing missed with
  | done => exact h
  | next hstep hrest ih =>
    rw [← Nat.add_assoc]
    exact ih (handle_tracks h hstep)

theorem handled_sound {events : List (SlotEvent α)} {n : Nat} (h : s.world.Sound)
    (hevents : Handled s events s' n) : s'.world.Sound := by
  induction hevents with
  | done => exact h
  | next hstep hrest ih => exact ih (handle_sound h hstep)

/-! ## Distribution -/

variable [RandomSource ρ]

theorem setTarget_keeps {settings : Settings α} {count : Nat} {slot slot' : Slot α ρ}
    (h : Answers (slot.setTarget settings count) slot') :
    slot'.key = slot.key ∧ slot'.mode = slot.mode ∧ slot'.byTraffic = slot.byTraffic ∧
      slot'.player = slot.player ∧ slot'.profile = slot.profile ∧ slot'.target = count := by
  unfold Slot.setTarget at h
  obtain ⟨-, -, h⟩ := answers_bind h
  rw [answers_pure h]
  exact ⟨rfl, rfl, rfl, rfl, rfl, rfl⟩

/-- Of the slots that the traffic drives, those from some place on get the given targets. -/
theorem setTargets_targets {settings : Settings α} {before slots : List (Slot α ρ)}
    {targets : List Nat} {w w' : World α ρ} (hnodup : w.keys.Nodup)
    (hsplit : w.trafficSlots = before ++ slots) (hlength : targets.length = slots.length)
    (h : Answers (setTargets settings (slots.zip targets) w) w') :
    w'.settings = w.settings ∧ w'.connectedPlayers = w.connectedPlayers ∧
      w'.trafficSlots.map (·.profile.vehicleLimit) =
        w.trafficSlots.map (·.profile.vehicleLimit) ∧
      w'.trafficSlots.map (·.target) = before.map (·.target) ++ targets := by
  induction slots generalizing before targets w with
  | nil =>
    rw [List.length_nil] at hlength
    rw [List.eq_nil_of_length_eq_zero hlength] at h ⊢
    rw [answers_pure h, hsplit, List.append_nil, List.append_nil]
    exact ⟨rfl, rfl, rfl, rfl⟩
  | cons slot slots ih =>
    cases targets with
    | nil => cases hlength
    | cons target targets =>
      rw [List.zip_cons_cons] at h
      obtain ⟨slot', hslot', h⟩ := answers_bind h
      obtain ⟨hkey, -, hdriver, hplayer, hprofile, htarget⟩ := setTarget_keeps hslot'
      obtain ⟨hfound, hstored⟩ := World.trafficSlots_store hnodup hsplit hkey hdriver
      have hdrivers : World.drivers slot' = World.drivers slot := by
        unfold World.drivers
        rw [hdriver, hplayer]
      have hplayers := World.connectedPlayers_store hfound hkey
      have hlimits := World.map_trafficSlots_store (f := fun slot => slot.profile.vehicleLimit)
        hfound hkey hdriver (by rw [hprofile])
      have hkeys : (w.store slot').keys.Nodup := by
        rw [World.keys_store]
        exact hnodup
      -- the slot that has its target joins those before, whose targets stay
      have hnext : (w.store slot').trafficSlots = (before ++ [slot']) ++ slots := by
        rw [hstored, List.append_assoc, List.singleton_append]
      obtain ⟨hsettings, hconnected, hcaps, htargets⟩ :=
        ih hkeys hnext (Nat.succ.inj hlength) h
      refine ⟨hsettings.trans World.store_settings, by omega, hcaps.trans hlimits, ?_⟩
      rw [htargets, List.map_append, List.append_assoc, List.map_singleton, htarget,
        List.singleton_append]

/-- After a distribution nobody is missed. -/
theorem distributeVehicles_fits {count : Nat} (hs : s.world.Sound)
    (h : Answers s.distributeVehicles (count, s')) : s'.Fits 0 := by
  rcases distributeVehicles_cases h with ⟨hnone, rfl⟩ | ⟨w, hw, rfl⟩
  · refine ⟨Nat.zero_le _, ?_⟩
    have hlength : (s'.fairTargets (s'.world.connectedPlayers - 0)).length = 0 := by
      unfold fairTargets
      rw [distribute_length, hnone]
      rfl
    rw [List.eq_nil_of_length_eq_zero hlength, hnone]
    rfl
  · have hlength : (distribute s.vehiclesWanted
        (s.world.trafficSlots.map (·.profile.vehicleLimit))).length =
        s.world.trafficSlots.length := by
      rw [distribute_length, List.length_map]
    obtain ⟨hsettings, hplayers, hlimits, htargets⟩ :=
      setTargets_targets hs.nodup (List.nil_append _).symm hlength hw
    refine ⟨Nat.zero_le _, ?_⟩
    show w.trafficSlots.map (·.target) = fairTargets _ (w.connectedPlayers - 0)
    rw [htargets, fairTargets_congr s { s with world := w } hsettings rfl hlimits, hplayers,
      Nat.sub_zero]
    rfl

/-! ## Ticks and courses -/

/-- A tick of a session in which players had been missed, and how many are missed after it: those
who had been and those who have come unannounced since, or nobody if vehicles were distributed. -/
inductive Ticked (now : Millis) (s : Session α ρ) (missed : Nat) : Session α ρ → Nat → Prop
  | intro {s₁ s₂ s' : Session α ρ} {n : Nat} {outcome : Except DeadEnd Nat}
      (hevents : Handled { s with orchestrator := { s.orchestrator with events := #[] } }
        s.orchestrator.events.toList s₁ n)
      (hdistribution : Answers (s₁.distributeIfDue now) s₂)
      (hspawn : Answers (s₂.spawn now) (outcome, s')) :
      Ticked now s missed s' (if s₁.isDue now then 0 else missed + n)

variable {now : Millis} {missed' : Nat}

theorem ticked_of_tick {outcome : Except DeadEnd Nat} (missed : Nat)
    (h : Answers (s.tick now) (outcome, s')) : ∃ missed', Ticked now s missed s' missed' := by
  obtain ⟨s₁, s₂, hevents, hdistribution, hspawn⟩ := tick_cases h
  unfold handleEvents at hevents
  obtain ⟨n, hhandled⟩ := handled_of_foldlM hevents
  exact ⟨_, .intro hhandled hdistribution hspawn⟩

theorem ticked_fits (hs : s.world.Sound) (h : s.Tracks missed)
    (htick : Ticked now s missed s' missed') : s'.Fits missed' := by
  cases htick with
  | @intro s₁ s₂ _ n outcome hevents hdistribution hspawn =>
    have hsound₁ : s₁.world.Sound := by
      refine handled_sound ?_ hevents
      exact hs
    have htracks : s₁.Tracks (missed + n) := by
      refine handled_tracks ?_ hevents
      exact h.imp id fun hfits => ⟨hfits.missed_le, hfits.targets⟩
    -- a stale distribution is due, so that one that is not due still fits
    have hfits : s₂.Fits (if s₁.isDue now then 0 else missed + n) := by
      rcases distributeIfDue_cases hdistribution with ⟨hdue, count, after, hafter, rfl⟩ |
        ⟨hdue, rfl⟩
      · rw [if_pos hdue]
        have hfits := distributeVehicles_fits hsound₁ hafter
        exact ⟨hfits.missed_le, hfits.targets⟩
      · rw [if_neg (by rw [hdue]; decide)]
        rcases htracks with hstale | hfits
        · unfold isDue at hdue
          rw [hstale] at hdue
          cases hdue
        · exact hfits
    obtain ⟨-, random, overlay, horchestrator⟩ := spawn_steps hspawn
    refine hfits.persists (spawn_persists hspawn) ?_
    rw [horchestrator]

theorem ticked_sound (hs : s.world.Sound) (htick : Ticked now s missed s' missed') :
    s'.world.Sound := by
  cases htick with
  | intro hevents hdistribution hspawn =>
    refine (spawn_persists hspawn).sound (distributeIfDue_sound ?_ hdistribution)
    refine handled_sound ?_ hevents
    exact hs

/-- A session that actions have led to, and how many players are missed in it. -/
inductive Course : Session α ρ → Nat → Prop
  | begun {w : World α ρ} (h : w.SetUp) : Course (ofWorld w) 0
  | acted {s s' : Session α ρ} {missed : Nat} {a : Action α} (h : Course s missed)
      (hother : ∀ now, a ≠ .tick now) (hact : Answers (s.act a) s') : Course s' missed
  | ticked {s s' : Session α ρ} {missed missed' : Nat} {now : Millis} (h : Course s missed)
      (htick : Ticked now s missed s' missed') : Course s' missed'

/-- Every reachable session has such a course. -/
theorem course_of_reachable (h : Reachable s) : ∃ missed, Course s missed := by
  induction h with
  | begun h => exact ⟨0, .begun h⟩
  | @acted s s' a h hact ih =>
    obtain ⟨missed, hcourse⟩ := ih
    -- of all actions only ticks change how many players are missed
    by_cases htick : ∃ now, a = .tick now
    · obtain ⟨now, rfl⟩ := htick
      obtain ⟨⟨outcome, after⟩, hafter, rfl⟩ := answers_map hact
      obtain ⟨missed', hticked⟩ := ticked_of_tick missed hafter
      exact ⟨missed', hcourse.ticked hticked⟩
    · exact ⟨missed, hcourse.acted (fun now ha => htick ⟨now, ha⟩) hact⟩

omit [RandomSource ρ] in
theorem setDensity_tracks {density : α} (h : s.Tracks missed) :
    (s.setDensity density).Tracks missed := by
  unfold setDensity
  split
  · exact Or.inl rfl
  · exact h

theorem act_tracks {a : Action α} (hother : ∀ now, a ≠ .tick now) (h : s.Tracks missed)
    (hact : Answers (s.act a) s') : s'.Tracks missed := by
  cases a with
  | send event =>
    rw [answers_pure hact]
    exact h.imp id fun hfits => ⟨hfits.missed_le, hfits.targets⟩
  | setDensity density =>
    rw [answers_pure hact]
    exact setDensity_tracks h
  | setHour hour =>
    rw [answers_pure hact]
    exact setDensity_tracks h
  | tick now => exact absurd rfl (hother now)
  | update now =>
    obtain ⟨w, hw, hact⟩ := answers_bind hact
    rw [answers_pure hact]
    exact h.imp id fun hfits => hfits.persists (World.update_persists hw) rfl
  | lookOut now =>
    obtain ⟨w, hw, hact⟩ := answers_bind hact
    rw [answers_pure hact]
    exact h.imp id fun hfits => hfits.persists (World.lookOut_persists (answers_lift hw)) rfl

theorem course_tracks (h : Course s missed) : s.world.Sound ∧ s.Tracks missed := by
  induction h with
  | begun h => exact ⟨World.setUp_sound h, Or.inl rfl⟩
  | acted _ hother hact ih => exact ⟨act_sound ih.1 hact, act_tracks hother ih.2 hact⟩
  | ticked _ htick ih =>
    exact ⟨ticked_sound ih.1 htick, Or.inr (ticked_fits ih.1 ih.2 htick)⟩

/-- **Targets and players.** Right after a tick the targets of the slots that the traffic drives are
their shares for all players who are there, but for those who have come unannounced since vehicles
were last distributed. -/
theorem targets_of_tick {outcome : Except DeadEnd Nat} (hs : Course s missed)
    (htick : Answers (s.tick now) (outcome, s')) :
    ∃ missed', Ticked now s missed s' missed' ∧ missed' ≤ s'.world.connectedPlayers ∧
      s'.world.trafficSlots.map (·.target) =
        s'.fairTargets (s'.world.connectedPlayers - missed') := by
  obtain ⟨hsound, htracks⟩ := course_tracks hs
  obtain ⟨missed', hticked⟩ := ticked_of_tick missed htick
  have hfits := ticked_fits hsound htracks hticked
  exact ⟨missed', hticked, hfits.missed_le, hfits.targets⟩

/-! One slot waits for a player and the traffic drives the other one. The player comes once with and
once without having connected. -/

private def quietWorld : World Rat (Tape fun _ _ => 0) where
  map := sideBySide
  settings := .standard
  slots := #[]
  random := RandomSource.seeded 0

private def quietSession : Session Rat (Tape fun _ _ => 0) :=
  ofWorld ((quietWorld.addSlot "player" "" .players).addSlot "car" "" .traffic)

private theorem quietWorld_setUp :
    ((quietWorld.addSlot "player" "" .players).addSlot "car" "" .traffic).SetUp :=
  .added (.added (World.setUp_of_check (by decide +kernel)))

private def announced : Session Rat (Tape fun _ _ => 0) :=
  quietSession.send (.connected (SlotKey.nth 0))

private theorem announcedTick : ((announced.tick 0) #[]).1.isOk = true := by decide +kernel

private def announced₁ : Session Rat (Tape fun _ _ => 0) := (answerOf _ announcedTick).2

/-- With a player who has connected nobody is missed, and the one slot gets its share. -/
theorem targets_of_tick_announced :
    Ticked 0 announced 0 announced₁ 0 ∧ announced₁.world.connectedPlayers = 1 ∧
      announced₁.world.trafficSlots.map (·.target) = announced₁.fairTargets 1 := by
  have hcourse : Course announced 0 :=
    .acted (a := .send (.connected (SlotKey.nth 0))) (.begun quietWorld_setUp)
      (fun now h => nomatch h) ⟨#[], #[], rfl⟩
  have htick : Answers (announced.tick 0) ((answerOf _ announcedTick).1, announced₁) :=
    answers_answerOf announcedTick
  obtain ⟨missed', hticked, hle, htargets⟩ := targets_of_tick hcourse htick
  have hplayers : announced₁.world.connectedPlayers = 1 := by decide +kernel
  have hgiven : announced₁.world.trafficSlots.map (·.target) = [1] := by decide +kernel
  have hnothing : announced₁.fairTargets 0 = [0] := by decide +kernel
  -- for no player at all the slot would get nothing, but it has got a vehicle
  have hmissed : missed' = 0 := by
    rcases Nat.eq_zero_or_pos missed' with hzero | hpos
    · exact hzero
    · have hleft : announced₁.world.connectedPlayers - missed' = 0 := by omega
      rw [hleft, hgiven, hnothing] at htargets
      cases htargets
  subst hmissed
  refine ⟨hticked, hplayers, ?_⟩
  rw [← hplayers]
  exact htargets

private theorem quietTick : ((quietSession.tick 0) #[]).1.isOk = true := by decide +kernel

private def unannounced : Session Rat (Tape fun _ _ => 0) :=
  (answerOf _ quietTick).2.send (.moved (SlotKey.nth 0) .unknown 0)

private theorem unannouncedTick : ((unannounced.tick 20000) #[]).1.isOk = true := by
  decide +kernel

private def unannounced₁ : Session Rat (Tape fun _ _ => 0) := (answerOf _ unannouncedTick).2

/-- With a player who has only reported a position the slot stays without vehicles. -/
theorem targets_unannounced :
    Reachable unannounced ∧
      Answers (unannounced.tick 20000) ((answerOf _ unannouncedTick).1, unannounced₁) ∧
      unannounced₁.world.trafficSlots ≠ [] ∧
      unannounced₁.world.trafficSlots.map (·.target) ≠
        unannounced₁.fairTargets unannounced₁.world.connectedPlayers := by
  have hticked : Reachable (answerOf _ quietTick).2 :=
    .acted (a := .tick 0) (.begun quietWorld_setUp)
      (answers_map_of (answers_answerOf quietTick) (·.2))
  refine ⟨.acted (a := .send (.moved (SlotKey.nth 0) .unknown 0)) hticked ⟨#[], #[], rfl⟩,
    answers_answerOf unannouncedTick, ?_, by decide +kernel⟩
  intro hnone
  have hone : unannounced₁.world.trafficSlots.length = 1 := by decide +kernel
  rw [hnone] at hone
  cases hone

end Session

end RoadTraffic
