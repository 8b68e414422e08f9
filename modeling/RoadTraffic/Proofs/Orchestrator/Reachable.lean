import RoadTraffic.Proofs.Orchestrator.Phases
import RoadTraffic.Proofs.Orchestrator.SpawnSteps

/-!
# The sessions that there are

A session begins with a world whose settings were accepted and to which slots were added, and goes
on by actions: events are reported, the density is changed, the orchestrator ticks, the vehicles
move and look out. `Reachable` collects all sessions that come about so, whatever the actions are
and however they are mixed. In every one of them the settings are acceptable, the keys of the slots
differ and all vehicles drive with the profiles of their slots (`reachable_sound`).
-/

namespace RoadTraffic

variable {α ρ : Type} [Scalar α] [RandomSource ρ]

/-- The worlds that sessions begin with. -/
inductive World.SetUp : World α ρ → Prop where
  | made {map : RoadMap α} {settings : Settings α} {w : World α ρ}
      (h : Answers (World.make map settings) (.ok w)) : SetUp w
  | added {model skin : String} {mode : ControlMode} {w : World α ρ} (h : SetUp w) :
      SetUp (w.addSlot model skin mode)

namespace World

/-- The settings are acceptable, the keys are those that the slots were given one after the other,
and all vehicles drive with the profiles of their slots. -/
structure Sound (w : World α ρ) : Prop where
  settings : w.settings.check = .ok ()
  keys : w.keys = (List.range w.slots.size).map SlotKey.nth
  uniform : w.Uniform

variable {w w' : World α ρ}

omit [RandomSource ρ] in
/-- No two slots have the same key. -/
theorem Sound.nodup (h : w.Sound) : w.keys.Nodup := by
  rw [h.keys]
  refine List.Pairwise.map SlotKey.nth ?_ List.nodup_range
  intro i j hij heq
  exact hij (Nat.succ.inj (congrArg SlotKey.index heq))

omit [RandomSource ρ] in
theorem Persists.sound (h : w.Persists w') (hw : w.Sound) : w'.Sound where
  settings := by rw [h.settings, hw.settings]
  keys := by
    have hsize : w'.slots.size = w.slots.size := by
      rw [← Array.length_toList, ← Array.length_toList, h.slots.length_eq]
    rw [h.keys, hw.keys, hsize]
  uniform := h.uniform hw.uniform

omit [RandomSource ρ] in
/-- A slot whose vehicles have its profile may be put back. -/
theorem Sound.store (hw : w.Sound) {slot : Slot α ρ} (hslot : slot.Uniform) :
    (w.store slot).Sound where
  settings := by rw [store_settings, hw.settings]
  keys := by
    have hsize : (w.store slot).slots.size = w.slots.size := by
      unfold World.store
      split
      · rw [Array.size_setIfInBounds]
      · rfl
    rw [keys_store, hw.keys, hsize]
  uniform other hother := by
    rcases mem_store hother with hold | rfl
    · exact hw.uniform other hold
    · exact hslot

/-- With acceptable settings a session can begin on any road. -/
theorem setUp_of_check {map : RoadMap α} {settings : Settings α} (h : settings.check = .ok ()) :
    SetUp (⟨map, settings, #[], RandomSource.seeded (settings.seed.getD 0)⟩ : World α ρ) := by
  have hmade : Answers (make map settings)
      (.ok (⟨map, settings, #[], RandomSource.seeded (settings.seed.getD 0)⟩ : World α ρ)) := by
    refine ⟨#[], #[.createdWorld map.size map.splines.length], ?_⟩
    unfold make
    rw [h]
    rfl
  exact .made hmade

theorem setUp_sound (h : w.SetUp) : w.Sound := by
  induction h with
  | made h =>
    unfold make at h
    split at h
    · cases answers_pure h
    · next hcheck =>
      obtain ⟨-, -, h⟩ := answers_bind h
      cases answers_pure h
      exact ⟨hcheck, rfl, fun slot hslot => absurd hslot (Array.not_mem_empty slot)⟩
  | added h hw =>
    refine ⟨hw.settings, ?_, ?_⟩
    · unfold World.addSlot World.keys
      have hkeys := hw.keys
      unfold World.keys at hkeys
      rw [Array.toList_push, List.map_append, hkeys, Array.size_push, List.range_succ,
        List.map_append]
      rfl
    · intro slot hslot
      rcases Array.mem_push.mp hslot with hold | rfl
      · exact hw.uniform slot hold
      · intro v hv
        exact absurd hv (Array.not_mem_empty v)

end World

namespace Session

/-- What is done to a session. -/
inductive Action (α : Type) where
  | send (event : SlotEvent α)
  | setDensity (density : α)
  | setHour (hour : α)
  | tick (now : Millis)
  | update (now : Millis)
  | lookOut (now : Millis)

/-- The session after an action. -/
def act (s : Session α ρ) : Action α → Logged α (Session α ρ)
  | .send event => return s.send event
  | .setDensity density => return s.setDensity density
  | .setHour hour => return s.setHour hour
  | .tick now => (·.2) <$> s.tick now
  | .update now => return { s with world := ← s.world.update now }
  | .lookOut now => return { s with world := ← s.world.lookOut now }

/-- The sessions that actions lead to. -/
inductive Reachable : Session α ρ → Prop where
  | begun {w : World α ρ} (h : w.SetUp) : Reachable (ofWorld w)
  | acted {s s' : Session α ρ} {a : Action α} (h : Reachable s) (hact : Answers (s.act a) s') :
      Reachable s'

/-! ## Every reachable session is sound -/

variable {s s' : Session α ρ}

omit [RandomSource ρ] in
theorem handle_sound {event : SlotEvent α} (hs : s.world.Sound) (h : Answers (s.handle event) s') :
    s'.world.Sound := by
  have huniform : ∀ {key slot}, s.world.slot? key = some slot → slot.Uniform := by
    intro key slot hslot
    exact hs.uniform slot (World.slot?_mem hslot)
  rcases handle_cases h with ⟨-, rfl⟩ | ⟨key, -, rfl⟩ | ⟨slot, slot', hslot, -, hkeeps, rfl⟩ |
    ⟨key, status, time, slot, -, hslot, rfl⟩
  · exact hs
  · exact hs
  · exact hs.store (hkeeps (huniform hslot))
  · -- a report leaves the vehicles of its slot alone
    have hheard := huniform hslot
    exact hs.store (show (slot.hearPlayer status time).Uniform from hheard)

omit [RandomSource ρ] in
theorem handleEvents_sound (hs : s.world.Sound) (h : Answers s.handleEvents s') :
    s'.world.Sound := by
  unfold handleEvents at h
  exact answers_foldlM (P := fun s => s.world.Sound)
    (fun event _ before after hbefore hstep => handle_sound hbefore hstep) hs h

/-- New vehicles have the profile that they were created with. -/
theorem create_profile {key : SlotKey} {profile : Profile α} {settings : Settings α} {n made : Nat}
    {r : ρ} : ∀ v ∈ (Slot.create key profile settings n made r).1, v.profile = profile := by
  induction n generalizing made r with
  | zero =>
    intro v hv
    cases hv
  | succ n ih =>
    intro v hv
    rcases List.mem_cons.mp hv with rfl | hv
    · rfl
    · exact ih v hv

theorem setTarget_uniform {settings : Settings α} {count : Nat} {slot slot' : Slot α ρ}
    (hslot : slot.Uniform) (h : Answers (slot.setTarget settings count) slot') :
    slot'.Uniform := by
  unfold Slot.setTarget at h
  obtain ⟨-, -, h⟩ := answers_bind h
  rw [answers_pure h]
  intro v hv
  rcases Array.mem_append.mp hv with hold | hnew
  · exact hslot v hold
  · exact create_profile v (List.mem_toArray.mp hnew)

theorem setTargets_sound {settings : Settings α} {pairs : List (Slot α ρ × Nat)}
    {w w' : World α ρ} (hpairs : ∀ p ∈ pairs, p.1.Uniform) (hw : w.Sound)
    (h : Answers (setTargets settings pairs w) w') : w'.Sound := by
  induction pairs generalizing w with
  | nil =>
    rw [answers_pure h]
    exact hw
  | cons p rest ih =>
    obtain ⟨slot', hslot', h⟩ := answers_bind h
    have huniform := setTarget_uniform (hpairs p (List.mem_cons_self ..)) hslot'
    exact ih (fun q hq => hpairs q (List.mem_cons_of_mem _ hq)) (hw.store huniform) h

theorem distributeIfDue_sound {now : Millis} (hs : s.world.Sound)
    (h : Answers (s.distributeIfDue now) s') : s'.world.Sound := by
  rcases distributeIfDue_cases h with ⟨-, count, after, hafter, rfl⟩ | ⟨-, rfl⟩
  · rcases distributeVehicles_cases hafter with ⟨-, rfl⟩ | ⟨w, hw, rfl⟩
    · exact hs
    · refine setTargets_sound ?_ hs hw
      intro p hp
      -- the slots that get targets are slots of the world
      have hmem := (List.of_mem_zip (a := p.1) (b := p.2) hp).1
      exact hs.uniform _ (Array.mem_toList_iff.mp (List.mem_filter.mp hmem).1)
  · exact hs

theorem tick_sound {now : Millis} {outcome : Except DeadEnd Nat} (hs : s.world.Sound)
    (h : Answers (s.tick now) (outcome, s')) : s'.world.Sound := by
  obtain ⟨s₁, s₂, h₁, h₂, h⟩ := tick_cases h
  exact (spawn_persists h).sound (distributeIfDue_sound (handleEvents_sound hs h₁) h₂)

omit [RandomSource ρ] in
theorem setDensity_world {density : α} : (s.setDensity density).world = s.world := by
  unfold setDensity
  split
  · rfl
  · rfl

theorem act_sound {action : Action α} (hs : s.world.Sound) (h : Answers (s.act action) s') :
    s'.world.Sound := by
  cases action with
  | send event =>
    cases answers_pure h
    exact hs
  | setDensity density =>
    rw [answers_pure h, setDensity_world]
    exact hs
  | setHour hour =>
    rw [answers_pure h]
    show (s.setDensity _).world.Sound
    rw [setDensity_world]
    exact hs
  | tick now =>
    obtain ⟨⟨outcome, after⟩, hafter, rfl⟩ := answers_map h
    exact tick_sound hs hafter
  | update now =>
    obtain ⟨w, hw, h⟩ := answers_bind h
    rw [answers_pure h]
    exact (World.update_persists hw).sound hs
  | lookOut now =>
    obtain ⟨w, hw, h⟩ := answers_bind h
    rw [answers_pure h]
    exact (World.lookOut_persists (answers_lift hw)).sound hs

/-- Whatever is done to a session, its world stays sound. -/
theorem reachable_sound (h : Reachable s) : s.world.Sound := by
  induction h with
  | begun h => exact World.setUp_sound h
  | acted _ hact ih => exact act_sound ih hact

end Session

end RoadTraffic
