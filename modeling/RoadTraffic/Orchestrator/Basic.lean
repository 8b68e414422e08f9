import RoadTraffic.Orchestrator.Distribute
import RoadTraffic.Orchestrator.Overlay
import RoadTraffic.Orchestrator.SpawnPoint

/-!
# The orchestrator

Decides how many vehicles each slot has and where they appear. A tick first handles the events that
have come in since the last one, then distributes vehicles over the slots if anything has changed
that the distribution depends on or a minute has passed, and then lets vehicles appear near the
players.

The orchestrator and the world are changed together; `Session` is the pair of them.
-/

namespace RoadTraffic

/-- What the orchestrator remembers from tick to tick. -/
structure Orchestrator (α ρ : Type) where
  random : ρ
  density : α
  /-- When vehicles were last distributed. -/
  lastDistribution : Option Millis
  /-- Whether something has changed that the distribution depends on. -/
  isStale : Bool
  /-- The events to be handled, in the order in which they came. -/
  events : Array (SlotEvent α)
  /-- The shapes recorded so far. -/
  overlay : Array (Shape α)

/-- A world with its orchestrator. -/
structure Session (α ρ : Type) where
  world : World α ρ
  orchestrator : Orchestrator α ρ

namespace Session

variable {α ρ : Type} [Scalar α] [RandomSource ρ]

/-- A session in which nothing has happened. The orchestrator's seed follows that of the world. -/
def ofWorld (world : World α ρ) : Session α ρ where
  world
  orchestrator := {
    random := RandomSource.seeded (world.settings.seed.getD 0 + 1)
    density := world.settings.density
    lastDistribution := none
    isStale := true
    events := #[]
    overlay := #[] }

/-- Reports an event, which is handled in the next tick. -/
def send (event : SlotEvent α) (s : Session α ρ) : Session α ρ :=
  { s with orchestrator := { s.orchestrator with events := s.orchestrator.events.push event } }

/-- Notes that vehicles have to be distributed anew. -/
def markStale (s : Session α ρ) : Session α ρ :=
  { s with orchestrator := { s.orchestrator with isStale := true } }

/-- The smallest change of the density that counts. -/
def densityStep : α := 1 / Scalar.ofNat (Nat.pow 2 52)

/-- Sets the density, which is not below zero. -/
def setDensity (density : α) (s : Session α ρ) : Session α ρ :=
  if densityStep < Scalar.abs (density - s.orchestrator.density) then
    { s with orchestrator :=
      { s.orchestrator with density := Scalar.max density 0, isStale := true } }
  else s

/-- Sets the density to that of an hour of the day. -/
def setHour (hour : α) (s : Session α ρ) : Session α ρ :=
  s.setDensity (s.world.settings.densityAt hour)

/-- Handles an event about a slot of the world. -/
def handleFor (slot : Slot α ρ) (event : SlotEvent α) (s : Session α ρ) :
    Logged α (Session α ρ) := do
  match event with
  | .connected _ =>
    let (admitted, slot) ← slot.setControl false
    if admitted then
      let slot := { slot with player := some .silent }
      return { s with world := s.world.store slot }.markStale
    else
      note (.reservedSlot slot.key)
      return s
  | .disconnected _ =>
    let slot := { slot with player := none }
    let slot ← if slot.mode = .players then pure slot else (·.2) <$> slot.setControl true
    return { s with world := s.world.store slot }.markStale
  | .moved _ status timestamp =>
    return { s with world := s.world.store (slot.hearPlayer status timestamp) }

/-- Handles an event. -/
def handle (s : Session α ρ) (event : SlotEvent α) : Logged α (Session α ρ) := do
  match s.world.demandSlot event.slot with
  | .ok slot => s.handleFor slot event
  | .error cause =>
    note (.ignoredEvent event cause)
    return s

/-- Handles all events. -/
def handleEvents (s : Session α ρ) : Logged α (Session α ρ) := do
  let events := s.orchestrator.events
  let s := { s with orchestrator := { s.orchestrator with events := #[] } }
  events.toList.foldlM handle s

/-- The number of vehicles wanted for each player. -/
def vehiclesPerPlayer (s : Session α ρ) : Nat :=
  let wanted := Scalar.ofNat s.world.settings.vehiclesPerPlayer * s.orchestrator.density
  Scalar.toNat (Nat.pow 2 64 - 1) (Scalar.round wanted)

/-- The number of vehicles wanted altogether: no more for each player than there are slots. -/
def vehiclesWanted (s : Session α ρ) : Nat :=
  let slots := s.world.trafficSlots.length
  min (s.world.connectedPlayers * min s.vehiclesPerPlayer slots) s.world.settings.vehicleLimit

/-- Gives slots new targets. -/
def setTargets (settings : Settings α) :
    List (Slot α ρ × Nat) → World α ρ → Logged α (World α ρ)
  | [], w => return w
  | (slot, target) :: rest, w => do
    let slot ← slot.setTarget settings target
    setTargets settings rest (w.store slot)

/-- Distributes vehicles over the slots that the traffic drives, and answers their number. -/
def distributeVehicles (s : Session α ρ) : Logged α (Nat × Session α ρ) := do
  let slots := s.world.trafficSlots
  if slots.isEmpty then
    note .nothingToOverbook
    return (0, s)
  let targets := distribute s.vehiclesWanted (slots.map (·.profile.vehicleLimit))
  let world ← setTargets s.world.settings (slots.zip targets) s.world
  let given := targets.foldr (· + ·) 0
  note (.distributed given s.world.connectedPlayers slots.length)
  return (given, { s with world })

/-- How often vehicles are distributed anew at least. -/
def distributionInterval : Millis := 60000

/-- Distributes vehicles if that is due. -/
def distributeIfDue (now : Millis) (s : Session α ρ) : Logged α (Session α ρ) := do
  let isDue := match s.orchestrator.lastDistribution with
    | some last => decide (distributionInterval ≤ now - last)
    | none => true
  if s.orchestrator.isStale || isDue then
    let (_, s) ← s.distributeVehicles
    return { s with orchestrator :=
      { s.orchestrator with lastDistribution := some now, isStale := false } }
  else return s

end Session

end RoadTraffic
