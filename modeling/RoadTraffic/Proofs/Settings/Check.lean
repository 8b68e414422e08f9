import RoadTraffic.Proofs.Journal.Answers
import RoadTraffic.Settings.Basic

/-!
# What acceptable settings promise

The check of the settings is a sequence of refusals. Settings that pass it pass each of them: what
has to be positive is (`positives_of_check`), and what has to be in order is (`orders_of_check`).
-/

namespace RoadTraffic

namespace Settings

/-- What has to be positive is. -/
theorem positives_of_check {α : Type} [Scalar α] {s : Settings α} (h : s.check = .ok ()) :
    ∀ p ∈ s.positives, 0 < p.2 := by
  unfold check at h
  extract_lets atSchedule atSpacing atProtection atSafety atDistance atWidth atDensity at h
  split at h
  · cases h
  · next hnone =>
    have hpositives : s.positives.find? (fun p => ¬ 0 < p.2) = none :=
      Option.eq_none_iff_forall_ne_some.mpr fun p hp => hnone p.1 p.2 hp
    simpa using List.find?_eq_none.mp hpositives

/-- The two intervals that vehicles draw from have their ends in order, and so have the two
spacings. -/
theorem orders_of_check {α : Type} [Scalar α] {s : Settings α} (h : s.check = .ok ()) :
    s.safetyDistance.isOrdered = true ∧ s.spawnProtection.isOrdered = true ∧
      ¬ s.spawnSpacing < s.minSpacing := by
  unfold check at h
  extract_lets atSchedule atSpacing atProtection atSafety atDistance atWidth atDensity at h
  split at h
  · cases h
  · -- the refusals, in the order in which they are made
    obtain ⟨-, h⟩ := of_refusal (k := atWidth) h
    obtain ⟨-, h⟩ := of_refusal (k := atDistance) h
    obtain ⟨-, h⟩ := of_demand (k := atSafety) h
    obtain ⟨hsafety, h⟩ := of_demand (k := atProtection) h
    obtain ⟨hprotection, h⟩ := of_demand (k := atSpacing) h
    exact ⟨hsafety, hprotection, (of_refusal (k := atSchedule) h).1⟩

/-- Vehicles do not appear closer to others than they may come to them. -/
theorem spawnSpacing_of_check {α : Type} [Scalar α] {s : Settings α} (h : s.check = .ok ()) :
    ¬ s.spawnSpacing < s.minSpacing :=
  (orders_of_check h).2.2

end Settings

end RoadTraffic
