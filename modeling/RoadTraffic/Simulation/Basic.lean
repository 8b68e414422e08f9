import RoadTraffic.Orchestrator.Spawn

/-!
# The simulation

Drives a session from a loop that advances time in steps of any length. Each of the three
activities runs in the first step and then in every step that brings the time since its last run
up to its interval: the orchestrator's tick, then the choice of target speeds, then the motion.
-/

namespace RoadTraffic

/-- The time since each activity ran, in s, and none before its first run. -/
structure Elapsed (α : Type) where
  tick : Option α
  lookOut : Option α
  update : Option α
  deriving DecidableEq

/-- A session with its clock. -/
structure Simulation (α ρ : Type) where
  session : Session α ρ
  /-- The session time in s. -/
  time : α
  /-- The number of steps made. -/
  frame : Nat
  elapsed : Elapsed α
  /-- The shapes recorded up to the last step, and none before the first one. -/
  overlay : Option (Array (Shape α))

namespace Simulation

variable {α ρ : Type} [Scalar α] [RandomSource ρ]

/-- A simulation at session time zero. -/
def ofWorld (world : World α ρ) : Simulation α ρ where
  session := .ofWorld world
  time := 0
  frame := 0
  elapsed := ⟨none, none, none⟩
  overlay := none

/-- The session time in ms. -/
def now (s : Simulation α ρ) : Millis :=
  Scalar.toNat Millis.last (Scalar.round (s.time * 1000))

/-- Whether an activity with an interval in ms runs. -/
def isDue (interval : Millis) (elapsed : Option α) : Bool :=
  match elapsed with
  | none => true
  | some t => decide ¬ (t < Scalar.ofNat interval / 1000)

/-- The clock moved on by `dt` seconds. -/
def passTime (dt : α) (s : Simulation α ρ) : Simulation α ρ :=
  { s with
    time := s.time + dt
    elapsed := {
      tick := s.elapsed.tick.map (· + dt)
      lookOut := s.elapsed.lookOut.map (· + dt)
      update := s.elapsed.update.map (· + dt) } }

/-- Runs a tick of the orchestrator if it is due. -/
def runTick (s : Simulation α ρ) : Logged α (Simulation α ρ) := do
  if !isDue s.session.world.settings.behaviorInterval s.elapsed.tick then return s
  let (outcome, session) ← s.session.tick s.now
  if let .error cause := outcome then note (.tickFailed s.now cause)
  return { s with session, elapsed := { s.elapsed with tick := some 0 } }

/-- Lets the vehicles choose target speeds if that is due. -/
def runLookOut (s : Simulation α ρ) : Logged α (Simulation α ρ) := do
  if !isDue s.session.world.settings.obstacleInterval s.elapsed.lookOut then return s
  let world ← s.session.world.lookOut s.now
  return { s with
    session := { s.session with world }
    elapsed := { s.elapsed with lookOut := some 0 } }

/-- Moves the vehicles if that is due. -/
def runUpdate (s : Simulation α ρ) : Logged α (Simulation α ρ) := do
  if !isDue s.session.world.settings.updateInterval s.elapsed.update then return s
  let world ← s.session.world.update s.now
  return { s with
    session := { s.session with world }
    elapsed := { s.elapsed with update := some 0 } }

/-- One step of `dt` seconds. -/
def step (dt : α) (s : Simulation α ρ) : Logged α (Simulation α ρ) := do
  let s ← (s.passTime dt).runTick
  let s ← s.runLookOut
  let s ← s.runUpdate
  let (shapes, session) := s.session.takeOverlay
  return { s with session, frame := s.frame + 1, overlay := some shapes }

/-- A number of steps of the same length. -/
def steps (dt : α) : Nat → Simulation α ρ → Logged α (Simulation α ρ)
  | 0, s => return s
  | n + 1, s => do steps dt n (← s.step dt)

end Simulation

end RoadTraffic
