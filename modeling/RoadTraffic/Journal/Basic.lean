import RoadTraffic.Fault
import RoadTraffic.Journal.Notice

/-!
# The journal

Computations that write notices as they go and may end in a fault. The notices that were written
before a fault are kept.
-/

namespace RoadTraffic

/-- Notices in the order in which they were written. -/
abbrev Journal (α : Type) := Array (Notice α)

/-- The notices of a level and of more severe ones. -/
def Journal.upTo {α : Type} (journal : Journal α) (level : Level) : Journal α :=
  journal.filter (·.level.rank ≤ level.rank)

/-- A computation with a journal. -/
abbrev Logged (α β : Type) := ExceptT Fault (StateM (Journal α)) β

/-- Writes a notice. -/
def note {α : Type} (notice : Notice α) : Logged α Unit := modify (·.push notice)

end RoadTraffic
