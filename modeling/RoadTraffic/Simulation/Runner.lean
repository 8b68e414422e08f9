import RoadTraffic.Orchestrator.Spawn

/-!
# The runner

Runs a session by the clock, each activity on its own. Only the beginning of a run is described
here, which is the same for every clock: all activities are started and the orchestrator has its
first tick.
-/

namespace RoadTraffic

/-- A session under a runner. -/
structure Runner (α ρ : Type) where
  session : Session α ρ
  isRunning : Bool
  /-- The shapes recorded by the latest tick. -/
  overlay : Array (Shape α)

namespace Runner

variable {α ρ : Type} [Scalar α] [RandomSource ρ]

/-- The activities of a runner: motion, obstacles and orchestration. -/
def activities : Nat := 3

/-- A runner after the first tick of its orchestrator, at session time `now`. -/
def start (now : Millis) (s : Session α ρ) : Logged α (Runner α ρ) := do
  note (.startedRunner activities)
  let (outcome, s) ← s.tick now
  if let .error cause := outcome then note (.tickFailed now cause)
  let (overlay, session) := s.takeOverlay
  return { session, isRunning := true, overlay }

end Runner

end RoadTraffic
