import RoadTraffic.Proofs.Orchestrator.Players
import RoadTraffic.Proofs.World.Vehicles

/-!
# Pools in sessions

Every slot of a session has come about by the actions that slots know (`Slot.Arises`), whatever was
done to the session (`reachable_arises`); so what all those actions keep is true of all slots of all
sessions, their pools' being in order (`Slot.Pooled`) among it.

Of the phases of a tick only the last one lets vehicles appear. What the events and the distribution
do is calm, and so is the removal of unsafe vehicles: no vehicle comes on the road, and none leaves
its pool.
-/

namespace RoadTraffic

namespace Slot

variable {α ρ : Type} [Scalar α] [RandomSource ρ] {slot slot' slot'' : Slot α ρ}

/-- The slot has come about by actions from one without vehicles. -/
def Arises (slot : Slot α ρ) : Prop :=
  ∃ key model skin mode settings seed actions,
    Acted (new key model skin mode settings seed) actions slot

theorem new_arises {key : SlotKey} {model skin : String} {mode : ControlMode}
    {settings : Settings α} {seed : UInt64} :
    (new key model skin mode settings seed : Slot α ρ).Arises :=
  ⟨_, _, _, _, _, _, [], .done⟩

theorem Arises.pooled (h : slot.Arises) : slot.Pooled := by
  obtain ⟨_, _, _, _, _, _, actions, hacted⟩ := h
  exact hacted.pooled new_pooled

/-- A slot that an action is done to has come about by one action more. -/
theorem Arises.act (h : slot.Arises) (action : Action α)
    (hact : Answers (slot.act action) slot') : slot'.Arises := by
  obtain ⟨key, model, skin, mode, settings, seed, actions, hacted⟩ := h
  exact ⟨key, model, skin, mode, settings, seed, _, hacted.append (.next hact .done)⟩

theorem Arises.setPlayer (h : slot.Arises) (player : Option (Player α)) :
    Arises { slot with player } :=
  h.act (.setPlayer player) (answers_of_pure _)

theorem Arises.setControl (h : slot.Arises) {byTraffic admitted : Bool}
    (hcontrol : Answers (slot.setControl byTraffic) (admitted, slot')) : slot'.Arises :=
  h.act (.setControl byTraffic) (answers_map_of hcontrol (·.2))

theorem Arises.canPlace (h : slot.Arises) {m : RoadMap α} {s : Settings α} {id : VehicleId}
    {point : PointId} {admitted : Bool}
    (htry : Answers (slot.canPlace m s id point) (admitted, slot')) : slot'.Arises :=
  h.act (.tryFor m s id point) (answers_map_of htry (·.2))

theorem Arises.removeUnsafe (h : slot.Arises) {m : RoadMap α} {s : Settings α} {count : Nat}
    (hremoved : Answers (slot.removeUnsafe m s) (count, slot')) : slot'.Arises :=
  h.act (.removeUnsafe m s) (answers_map_of hremoved (·.2))

theorem Arises.update (h : slot.Arises) {m : RoadMap α} {s : Settings α} {now : Millis}
    {outcome : Except DeadEnd Unit} (hmoved : Answers (slot.update m s now) (outcome, slot')) :
    slot'.Arises :=
  h.act (.update m s now) (answers_map_of hmoved (·.2))

theorem Arises.lookOut (h : slot.Arises) {m : RoadMap α} {s : Settings α}
    {around : Surroundings α} {now : Millis}
    (hlooked : Answers (slot.lookOut m s around now) slot') : slot'.Arises :=
  h.act (.lookOut m s around now) (answers_of_lift hlooked)

theorem Arises.place (h : slot.Arises) {m : RoadMap α} {s : Settings α} {serial : Nat}
    {point : PointId} {now : Millis} {renewed : Bool} {v v' : Vehicle α ρ}
    {outcome : Except DeadEnd Unit} (hv : slot.vehicles[serial]? = some v)
    (hplace : Answers (v.place m s point now renewed) (outcome, v')) :
    (slot.store serial v').Arises := by
  refine h.act (.place m s serial point now renewed) ?_
  unfold Slot.act
  dsimp only
  rw [hv]
  exact answers_map_of (answers_of_lift hplace) fun placed => slot.store serial placed.2

theorem Handles.arises {event : SlotEvent α} (h : slot.Handles event slot')
    (hs : slot.Arises) : slot'.Arises := by
  cases h with
  | refused hmode => exact hs
  | taken hmode hcontrol => exact (hs.setControl hcontrol).setPlayer _
  | left hmode => exact hs.setPlayer none
  | returned hmode hcontrol => exact (hs.setPlayer none).setControl hcontrol
  | heard status time => exact hs.setPlayer _

omit [RandomSource ρ] in
theorem Handles.calm {event : SlotEvent α} (h : slot.Handles event slot') : slot.Calm slot' := by
  have hplayer : ∀ (slot : Slot α ρ) player, slot.Calm { slot with player } :=
    fun _ _ => .of_eq rfl rfl rfl
  cases h with
  | refused hmode => exact .refl
  | taken hmode hcontrol => exact (setControl_calm hcontrol).trans (hplayer ..)
  | left hmode => exact hplayer ..
  | returned hmode hcontrol => exact (hplayer slot none).trans (setControl_calm hcontrol)
  | heard status time => exact hplayer ..

end Slot

namespace World

variable {α ρ : Type} [Scalar α] [RandomSource ρ] {w w' : World α ρ} {now : Millis}

/-- All slots have come about by actions. -/
def Arises (w : World α ρ) : Prop := ∀ slot ∈ w.slots, slot.Arises

theorem Arises.store (h : w.Arises) {slot : Slot α ρ} (hslot : slot.Arises) :
    (w.store slot).Arises := by
  intro other hother
  rcases mem_store hother with hold | rfl
  · exact h other hold
  · exact hslot

theorem setUp_arises (h : w.SetUp) : w.Arises := by
  induction h with
  | made h =>
    unfold make at h
    split at h
    · cases answers_pure h
    · obtain ⟨-, -, h⟩ := answers_bind h
      cases answers_pure h
      exact fun slot hslot => absurd hslot (Array.not_mem_empty slot)
  | added h hw =>
    intro slot hslot
    rcases Array.mem_push.mp hslot with hold | rfl
    · exact hw slot hold
    · exact Slot.new_arises

theorem update_arises (hw : w.Arises) (h : Answers (w.update now) w') : w'.Arises := by
  unfold update at h
  obtain ⟨slots, hslots, h⟩ := answers_bind h
  cases answers_pure h
  refine mapM_slots hw hslots fun slot slot' harises hslot => ?_
  rcases updateSlot_cases hslot with ⟨-, outcome, hmoved⟩ | ⟨-, rfl⟩
  · exact harises.update hmoved
  · exact harises

theorem lookOut_arises (hw : w.Arises) (h : Answers (w.lookOut now) w') : w'.Arises := by
  unfold lookOut at h
  obtain ⟨slots, hslots, h⟩ := answers_bind h
  cases answers_pure h
  refine mapM_slots hw hslots fun slot slot' harises hslot => ?_
  split at hslot
  · exact harises.lookOut hslot
  · rw [answers_pure hslot]
    exact harises

end World

namespace Session

variable {α ρ : Type} [Scalar α] [RandomSource ρ] {s s' : Session α ρ} {w w' : World α ρ}
  {now : Millis}

/-! ## Every slot has come about by actions -/

theorem handleEvents_arises (hs : s.world.Arises) (h : Answers s.handleEvents s') :
    s'.world.Arises := by
  unfold handleEvents at h
  refine answers_foldlM (P := fun s => s.world.Arises) ?_ hs h
  intro event _ before after hbefore hstep
  rcases handle_world hstep with rfl | ⟨slot, slot', hslot, hhandles, hstore⟩
  · exact hbefore
  · rw [hstore]
    exact hbefore.store (hhandles.arises (hbefore slot (World.slot?_mem hslot)))

theorem distributeIfDue_arises (hs : s.world.Arises) (h : Answers (s.distributeIfDue now) s') :
    s'.world.Arises :=
  distributeIfDue_slots (P := Slot.Arises) (fun _ _ target _ hslot hslot' =>
    hslot.act (.setTarget s.world.settings target) hslot') hs h

theorem removeUnsafe_arises (hw : w.Arises) (h : Answers (removeUnsafe w) w') : w'.Arises := by
  intro slot' hslot'
  obtain ⟨slot, hslot, ⟨-, count, hleft⟩ | ⟨-, rfl⟩⟩ := removeUnsafe_slot h hslot'
  · exact (hw slot hslot).removeUnsafe hleft
  · exact hw slot' hslot

theorem spawned_arises (hw : w.Arises) (h : Spawned now w w') : w'.Arises := by
  induction h with
  | refl => exact hw
  | tail _ hstep ih =>
    cases hstep with
    | tried hslot htry => exact ih.store ((ih _ (World.slot?_mem hslot)).canPlace htry)
    | placed hslot hdriven hadmitted hv hplace =>
      exact ih.store ((ih _ (World.slot?_mem hslot)).place hv hplace)

theorem act_arises {a : Action α} (hs : s.world.Arises) (h : Answers (s.act a) s') :
    s'.world.Arises := by
  cases a with
  | send event =>
    cases answers_pure h
    exact hs
  | setDensity density =>
    rw [answers_pure h, setDensity_world]
    exact hs
  | setHour hour =>
    rw [answers_pure h]
    show (s.setDensity _).world.Arises
    rw [setDensity_world]
    exact hs
  | tick now =>
    obtain ⟨⟨outcome, after⟩, htick, rfl⟩ := answers_map h
    obtain ⟨s₁, s₂, h₁, h₂, hspawn⟩ := tick_cases htick
    have harises := distributeIfDue_arises (handleEvents_arises hs h₁) h₂
    obtain ⟨⟨w, hremoved, hspawned⟩, -⟩ := spawn_steps hspawn
    exact spawned_arises (removeUnsafe_arises harises hremoved) hspawned
  | update now =>
    obtain ⟨w, hw, h⟩ := answers_bind h
    rw [answers_pure h]
    exact World.update_arises hs hw
  | lookOut now =>
    obtain ⟨w, hw, h⟩ := answers_bind h
    rw [answers_pure h]
    exact World.lookOut_arises hs (answers_lift hw)

/-- Whatever is done to a session, its slots come about by the actions that slots know. -/
theorem reachable_arises (h : Reachable s) : s.world.Arises := by
  induction h with
  | begun h => exact World.setUp_arises h
  | acted _ hact ih => exact act_arises ih hact

/-! ## Phases that are calm -/

omit [RandomSource ρ] in
theorem handleEvents_calm (h : Answers s.handleEvents s') : s.world.Calm s'.world := by
  unfold handleEvents at h
  refine answers_foldlM (P := fun t : Session α ρ => s.world.Calm t.world) ?_ ?_ h
  · intro event _ before after hbefore hstep
    rcases handle_world hstep with rfl | ⟨slot, slot', hslot, hhandles, hstore⟩
    · exact hbefore
    · rw [hstore]
      exact hbefore.trans (World.store_calm hslot hhandles.calm)
  · exact World.Calm.refl

/-- Slots get their targets one after the other, each as it is in the world at that time. -/
theorem setTargets_calm {settings : Settings α} {before slots : List (Slot α ρ)}
    {targets : List Nat} (hkeys : w.keys.Nodup) (hsplit : w.trafficSlots = before ++ slots)
    (h : Answers (setTargets settings (slots.zip targets) w) w') : w.Calm w' := by
  induction slots generalizing before targets w with
  | nil =>
    rw [answers_pure h]
    exact .refl
  | cons slot slots ih =>
    cases targets with
    | nil =>
      rw [answers_pure h]
      exact .refl
    | cons target targets =>
      rw [List.zip_cons_cons] at h
      obtain ⟨slot', hslot', h⟩ := answers_bind h
      obtain ⟨hkey, -, hdriver, -⟩ := setTarget_keeps hslot'
      obtain ⟨hfound, hstored⟩ := World.trafficSlots_store hkeys hsplit hkey hdriver
      have hnext : (w.store slot').trafficSlots = (before ++ [slot']) ++ slots := by
        rw [hstored, List.append_cons]
      refine (World.store_calm hfound (Slot.setTarget_calm hslot')).trans (ih ?_ hnext h)
      rw [World.keys_store]
      exact hkeys

theorem distributeIfDue_calm (hkeys : s.world.keys.Nodup)
    (h : Answers (s.distributeIfDue now) s') : s.world.Calm s'.world := by
  rcases distributeIfDue_cases h with ⟨-, count, after, hafter, rfl⟩ | ⟨-, rfl⟩
  · rcases distributeVehicles_cases hafter with ⟨-, rfl⟩ | ⟨w, hw, rfl⟩
    · exact .refl
    · exact setTargets_calm hkeys (List.nil_append _).symm hw
  · exact .refl

omit [RandomSource ρ] in
theorem removeUnsafe_calm (h : Answers (removeUnsafe w) w') : w.Calm w' := by
  obtain ⟨-, -, hslots⟩ := removeUnsafe_cases h
  refine World.calm_of_forall₂ (hslots.imp ?_)
  rintro slot slot' (⟨-, count, hleft⟩ | ⟨-, rfl⟩)
  · exact Slot.removeUnsafe_calm hleft
  · exact .refl

end Session

end RoadTraffic
