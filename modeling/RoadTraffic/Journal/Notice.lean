import RoadTraffic.Decimal.Fixed
import RoadTraffic.World.Event

/-!
# Notices

What the simulation reports about its own work: the occasions, how severe each is and the sentence
that tells it.
-/

namespace RoadTraffic

/-- How severe a notice is. -/
inductive Level where
  | error
  | warn
  | info
  | debug
  | trace
  deriving DecidableEq, Repr

namespace Level

/-- The rank of a level; the most severe one has the lowest. -/
def rank : Level → Nat
  | error => 0
  | warn => 1
  | info => 2
  | debug => 3
  | trace => 4

/-- The name of a level. -/
def name : Level → String
  | error => "ERROR"
  | warn => "WARN"
  | info => "INFO"
  | debug => "DEBUG"
  | trace => "TRACE"

end Level

/-- An occasion that is worth telling. -/
inductive Notice (α : Type) where
  /-- Vehicles of a slot could not move on; the first reason. -/
  | updateFailed (slot : SlotKey) (cause : DeadEnd)
  /-- An orchestrator tick was cut short. -/
  | tickFailed (now : Millis) (cause : DeadEnd)
  /-- A vehicle ran off the graph and goes on at its origin. -/
  | restarted (slot : SlotKey) (reached origin : PointId)
  /-- An event names a slot that the world does not have. -/
  | ignoredEvent (event : SlotEvent α) (cause : UnknownSlot)
  /-- A player asked for a slot that only the traffic drives. -/
  | reservedSlot (slot : SlotKey)
  | linkedLanes (links points : Nat)
  | createdWorld (points splines : Nat)
  | startedRunner (activities : Nat)
  /-- A neighbour is not linked because it carries oncoming traffic. -/
  | opposingLane (neighbour point : PointId)
  | changedControl (slot : SlotKey) (model : String) (byTraffic : Bool)
  | overbooked (slot : SlotKey) (target vehicles : Nat)
  | removedUnsafe (vehicles : Nat) (slot : SlotKey)
  | removedSurplus (slot : SlotKey)
  /-- There is no slot to distribute vehicles over. -/
  | nothingToOverbook
  | distributed (vehicles players slots : Nat)
  | noSpawnPoint (player : SlotKey)
  | noVehicleFor (point : PointId)
  | spawned (slot : SlotKey) (point : PointId) (player : SlotKey)
  /-- How many links a tour has found on its map. -/
  | tourLinks (links : Nat)
  /-- Where a tour stands. -/
  | tourProgress (now : Millis) (vehicles : Nat) (meanSpeed : α)

namespace Notice

/-- The level of a notice. -/
def level {α : Type} : Notice α → Level
  | updateFailed .. | tickFailed .. => .error
  | restarted .. | ignoredEvent .. | reservedSlot .. => .warn
  | linkedLanes .. | createdWorld .. | startedRunner .. | tourLinks .. | tourProgress .. => .info
  | opposingLane .. | changedControl .. | overbooked .. | removedUnsafe .. | removedSurplus ..
  | nothingToOverbook | distributed .. => .debug
  | noSpawnPoint .. | noVehicleFor .. | spawned .. => .trace

/-- The sentence of a notice about an oncoming lane. -/
def opposingLaneText (neighbour point : PointId) : String :=
  "Ignoring opposing lane " ++ neighbour.label ++ " next to " ++ point.label

/-- The sentence of a notice. -/
def message : Notice Float → String
  | updateFailed slot cause =>
    "Updating AI vehicles of slot " ++ slot.label ++ " failed: " ++ cause.message
  | tickFailed now cause =>
    "AI behavior tick at " ++ toString now ++ " ms failed: " ++ cause.message
  | restarted slot reached origin =>
    "AI vehicle of slot " ++ slot.label ++ " reached a dead end at " ++ reached.label
      ++ ", restarting at " ++ origin.label
  | ignoredEvent event cause => "Ignoring " ++ event.text ++ ": " ++ cause.message
  | reservedSlot slot => "Slot " ++ slot.label ++ " is reserved for the AI"
  | linkedLanes links points =>
    "Adjacent lane detection linked " ++ toString links ++ " lanes across " ++ toString points
      ++ " points"
  | createdWorld points splines =>
    "Traffic world created with " ++ toString points ++ " points in " ++ toString splines
      ++ " splines"
  | startedRunner activities =>
    "Traffic runner started with " ++ toString activities ++ " threads"
  | opposingLane neighbour point => opposingLaneText neighbour point
  | changedControl slot model byTraffic =>
    "Slot " ++ slot.label ++ " (" ++ model ++ ") is now "
      ++ (if byTraffic then "AI" else "player") ++ " controlled"
  | overbooked slot target vehicles =>
    "Slot " ++ slot.label ++ " overbooking set to " ++ toString target ++ " ("
      ++ toString vehicles ++ " states)"
  | removedUnsafe vehicles slot =>
    "Despawned " ++ toString vehicles ++ " unsafe states of slot " ++ slot.label
  | removedSurplus slot => "Removed surplus state from slot " ++ slot.label
  | nothingToOverbook => "No AI slots, overbooking unchanged"
  | distributed vehicles players slots =>
    "Overbooking: " ++ toString vehicles ++ " AI vehicles for " ++ toString players
      ++ " players over " ++ toString slots ++ " slots"
  | noSpawnPoint player => "No spawn point found for player slot " ++ player.label
  | noVehicleFor point => "No AI vehicle may spawn at " ++ point.label
  | spawned slot point player =>
    "Spawned AI vehicle of slot " ++ slot.label ++ " at " ++ point.label ++ " near player slot "
      ++ player.label
  | tourLinks links => "Linked " ++ toString links ++ " adjacent lane points"
  | tourProgress now vehicles meanSpeed =>
    "t = " ++ Decimal.padLeft 5 (Decimal.fixed 1 (Float.ofNat now / 1000)) ++ " s: "
      ++ toString vehicles ++ " AI vehicles, mean speed "
      ++ Decimal.fixed 1 (meanSpeed * 3.6) ++ " km/h"

end Notice

end RoadTraffic
