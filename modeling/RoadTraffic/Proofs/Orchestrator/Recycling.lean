import RoadTraffic.Proofs.Orchestrator.Appearances

/-!
# What a tick leaves alone

A vehicle that is on the road when vehicles begin to appear, and that some player is near to or that
is still protected, is no candidate; and whoever is no candidate is left alone for the whole round.
Without an active player there is no round, and the phases before it are calm. `kept_of_tick` puts
both together.
-/

namespace RoadTraffic

namespace Session

variable {α ρ : Type} [Scalar α] [RandomSource ρ] {s s₁ s₂ s' : Session α ρ} {w : World α ρ}
  {now : Millis} {outcome : Except DeadEnd Nat} {id : VehicleId} {v : Vehicle α ρ}

omit [RandomSource ρ] in
/-- Whoever is on the road and has to be left there is no candidate. -/
theorem not_mem_candidates [OrderedScalar α] (hkeys : w.keys.Nodup) {settings : Settings α}
    {foci : List (Vec3 α)} (hv : w.vehicle? id = some v) (hplaced : v.placed = true)
    (hkept : IsNear settings foci v.position ∨ now ≤ v.protectedUntil) :
    id ∉ candidates settings now (traffic w) foci := by
  intro hid
  obtain ⟨slot, hslot, -, u, hu, hfree⟩ := candidate_free hkeys hid
  rw [World.vehicle?_eq hslot, hu] at hv
  obtain rfl := Option.some.inj hv
  rcases hfree with hout | ⟨hfar, hended⟩
  · rw [hplaced] at hout
    cases hout
  · rcases hkept with hnear | hprotected
    · exact hfar hnear
    · exact absurd hended (Nat.not_lt.mpr hprotected)

/-- **What a tick leaves alone.** A vehicle in use that is on the road when vehicles begin to appear
and is not taken off it as unsafe is not touched in any way and stays in its pool, if it is near
some active player's focus or still protected. In exact arithmetic it is near if it is within the
players' radius. If there is no active player, a tick places no vehicle and takes none from its
pool. -/
theorem kept_of_tick [OrderedScalar α] (hs : Reachable s) (hevents : Answers s.handleEvents s₁)
    (hdistribution : Answers (s₁.distributeIfDue now) s₂)
    (hremoved : Answers (removeUnsafe s₂.world) w) (h : Answers (s.tick now) (outcome, s')) :
    (∀ id v u, s₂.world.InUse id → s₂.world.vehicle? id = some v → v.placed = true →
      w.vehicle? id = some u → u.placed = true →
      (IsNear s₂.world.settings (foci s₂.world now) v.position ∨ now ≤ v.protectedUntil →
        s'.world.InUse id ∧ s'.world.vehicle? id = some v) ∧
      ∀ [Field α] [LinearOrder α] [IsStrictOrderedRing α] [ExactScalar α],
        0 ≤ s₂.world.settings.playerRadius →
        WithinRadius s₂.world.settings (foci s₂.world now) v.position →
        s'.world.InUse id ∧ s'.world.vehicle? id = some v) ∧
    (s₂.world.activePlayers now = [] → ∀ id,
      (s.world.InUse id → s'.world.InUse id) ∧
      (∀ v, s.world.vehicle? id = some v →
        s'.world.vehicle? id = some v ∨ s'.world.vehicle? id = some v.remove) ∧
      ∀ v, s'.world.vehicle? id = some v → v.placed = true → s.world.vehicle? id = some v) := by
  obtain ⟨appearances, htick, -⟩ := tick_round hs hevents hdistribution hremoved h
  have hremoval := removeUnsafe_calm hremoved
  have hpersists := removeUnsafe_persists hremoved
  refine ⟨fun id v u hinUse hv _ hu hplaced => ?_, fun hnobody id => ?_⟩
  · -- what is still on the road is what it was
    obtain rfl : u = v := Option.some.inj ((hremoval.placed hu hplaced).symm.trans hv)
    have hfoci : foci w now = foci s₂.world now := by
      unfold foci
      rw [hpersists.activePlayers, hpersists.settings]
    rw [← hfoci, ← hpersists.settings]
    have hstays : IsNear w.settings (foci w now) u.position ∨ now ≤ u.protectedUntil →
        s'.world.InUse id ∧ s'.world.vehicle? id = some u := by
      intro hkept
      have hleaves := htick.round.leaves (not_mem_candidates htick.sound.nodup hu hplaced hkept)
      exact ⟨hleaves.inUse.mpr (hremoval.inUse hinUse), hleaves.vehicle.trans hu⟩
    exact ⟨hstays, fun hradius hwithin => hstays (Or.inl (isNear_of_withinRadius hradius hwithin))⟩
  · have hkeys := (handleEvents_sound (reachable_sound hs) hevents).nodup
    have hcalm := ((handleEvents_calm hevents).trans
      (distributeIfDue_calm hkeys hdistribution)).trans hremoval
    rw [htick.quiet ((hpersists.activePlayers now).trans hnobody)]
    exact ⟨hcalm.inUse, fun v => hcalm.vehicle, fun v => hcalm.placed⟩

/-! The player of `trail` drives away from a vehicle that is protected. It comes back, or it is not
heard of again. -/

private def returning : Session Rat (Tape fun _ _ => 0) :=
  trail.send (.moved (SlotKey.nth 0) { Status.unknown with velocity := ⟨0, 0, 10⟩ } 20)

private theorem returning_reachable : Reachable returning :=
  trail_reachable.acted (a := .send _) ⟨#[], #[], rfl⟩

/-- A tick with the vehicle behind the player and protected. -/
private def protectedStages : Stages Rat (Tape fun _ _ => 0) :=
  answerOf (trail.stages 50) (by decide +kernel)

/-- A tick with the vehicle beside the player and not protected any more. -/
private def returnedStages : Stages Rat (Tape fun _ _ => 0) :=
  answerOf (returning.stages 500) (by decide +kernel)

/-- A tick when the player has not been heard of for long. -/
private def silentStages : Stages Rat (Tape fun _ _ => 0) :=
  answerOf (trail.stages 20000) (by decide +kernel)

private def behindId : VehicleId := ⟨SlotKey.nth 1, 0⟩

/-- While the vehicle is protected it stays where it is although no player is near to it. It also
stays when it is not protected any more, but the player is there again. When nobody is there it
stays in use. -/
theorem kept_of_tick_protected :
    (∃ v, protectedStages.distributed.world.vehicle? behindId = some v ∧
      ¬ IsNear protectedStages.distributed.world.settings
        (foci protectedStages.distributed.world 50) v.position ∧
      protectedStages.last.world.vehicle? behindId = some v) ∧
    (∃ v, returnedStages.distributed.world.vehicle? behindId = some v ∧
      v.protectedUntil < 500 ∧ returnedStages.last.world.vehicle? behindId = some v) ∧
    silentStages.last.world.InUse behindId := by
  have hprotected := stages_cases
    (show Answers (trail.stages 50) protectedStages from answers_answerOf _)
  have hreturned := stages_cases
    (show Answers (returning.stages 500) returnedStages from answers_answerOf _)
  have hsilent := stages_cases
    (show Answers (trail.stages 20000) silentStages from answers_answerOf _)
  have hkept := (kept_of_tick trail_reachable hprotected.1 hprotected.2.1 hprotected.2.2.1
    hprotected.2.2.2).1
  have hspared := (kept_of_tick returning_reachable hreturned.1 hreturned.2.1 hreturned.2.2.1
    hreturned.2.2.2).1
  have hquiet := (kept_of_tick trail_reachable hsilent.1 hsilent.2.1 hsilent.2.2.1
    hsilent.2.2.2).2
  refine ⟨?_, ?_, ?_⟩
  · have hinUse : protectedStages.distributed.world.InUse behindId := by decide +kernel
    obtain ⟨v, hv, hplaced, hprotection, hfar⟩ :
        ∃ v ∈ protectedStages.distributed.world.vehicle? behindId, v.placed = true ∧
          50 ≤ v.protectedUntil ∧ ¬ IsNear protectedStages.distributed.world.settings
            (foci protectedStages.distributed.world 50) v.position := by decide +kernel
    -- it is not unsafe
    obtain ⟨u, hu, huplaced⟩ :
        ∃ u ∈ protectedStages.cleared.vehicle? behindId, u.placed = true := by decide +kernel
    have hstays := (hkept behindId v u hinUse hv hplaced hu huplaced).1 (Or.inr hprotection)
    exact ⟨v, hv, hfar, hstays.2⟩
  · have hinUse : returnedStages.distributed.world.InUse behindId := by decide +kernel
    obtain ⟨v, hv, hplaced, hended, hwithin⟩ :
        ∃ v ∈ returnedStages.distributed.world.vehicle? behindId, v.placed = true ∧
          v.protectedUntil < 500 ∧ WithinRadius returnedStages.distributed.world.settings
            (foci returnedStages.distributed.world 500) v.position := by decide +kernel
    obtain ⟨u, hu, huplaced⟩ :
        ∃ u ∈ returnedStages.cleared.vehicle? behindId, u.placed = true := by decide +kernel
    have hradius : 0 ≤ returnedStages.distributed.world.settings.playerRadius := by decide +kernel
    have hstays := (hspared behindId v u hinUse hv hplaced hu huplaced).2 hradius hwithin
    exact ⟨v, hv, hended, hstays.2⟩
  · have hwas : trail.world.InUse behindId := by decide +kernel
    have hnobody : (silentStages.distributed.world.activePlayers 20000).isEmpty = true := by
      decide +kernel
    exact (hquiet (List.isEmpty_iff.mp hnobody) behindId).1 hwas

end Session

end RoadTraffic
