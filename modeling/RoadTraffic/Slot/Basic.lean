import RoadTraffic.Journal.Basic
import RoadTraffic.Vehicle.Caution
import RoadTraffic.Vehicle.Motion

/-!
# Slots

A car slot of a session. A player may take it, and while none does the traffic may drive it with a
pool of vehicles. Vehicles are created when the pool grows and are named by serial numbers; a
vehicle that has left the pool for good is kept, so that its number still stands for it.
-/

namespace RoadTraffic

/-- Who may drive a slot. -/
inductive ControlMode where
  /-- Players only. -/
  | players
  /-- The traffic, as long as no player does. -/
  | shared
  /-- The traffic only. -/
  | traffic
  deriving DecidableEq, Repr

/-- Whether a mode lets the traffic drive, or a player. -/
def ControlMode.admits : ControlMode → Bool → Bool
  | players, byTraffic => !byTraffic
  | shared, _ => true
  | traffic, byTraffic => byTraffic

/-- What is known about the player of a slot. -/
structure Player (α : Type) where
  status : Status α
  /-- When the player was last heard of. -/
  lastActive : Millis
  /-- Whether the player has told a position at all. -/
  hasReported : Bool
  deriving DecidableEq

/-- A player who has just come. -/
def Player.silent {α : Type} [Scalar α] : Player α := ⟨.unknown, 0, false⟩

/-- A car slot. -/
structure Slot (α ρ : Type) where
  key : SlotKey
  model : String
  skin : String
  mode : ControlMode
  profile : Profile α
  /-- Whether the traffic drives the slot at present. -/
  byTraffic : Bool
  /-- All vehicles that were ever created for the slot; a vehicle's place is its serial number. -/
  vehicles : Array (Vehicle α ρ)
  /-- The serial numbers of the vehicles in use, in the order in which they came. -/
  pool : List Nat
  /-- How many vehicles the pool should have. -/
  target : Nat
  player : Option (Player α)
  random : ρ

namespace Slot

variable {α ρ : Type} [Scalar α] [RandomSource ρ]

/-- A slot without vehicles. -/
def new (key : SlotKey) (model skin : String) (mode : ControlMode) (s : Settings α)
    (seed : UInt64) : Slot α ρ where
  key
  model
  skin
  mode
  profile := s.profileFor model skin
  byTraffic := mode != .players
  vehicles := #[]
  pool := []
  target := 0
  player := none
  random := RandomSource.seeded seed

/-- The vehicles in use with their serial numbers. -/
def members (slot : Slot α ρ) : List (Nat × Vehicle α ρ) :=
  slot.pool.filterMap fun serial => (slot.vehicles[serial]?).map fun v => (serial, v)

/-- The vehicles in use that are on the road, with their serial numbers. -/
def placed (slot : Slot α ρ) : List (Nat × Vehicle α ρ) := slot.members.filter (·.2.placed)

/-- The vehicles in use that are not on the road, with their serial numbers. -/
def waiting (slot : Slot α ρ) : List (Nat × Vehicle α ρ) := slot.members.filter (!·.2.placed)

/-- The reports of the vehicles on the road. -/
def statuses (slot : Slot α ρ) : List (Status α) := slot.placed.map (·.2.status)

/-- What vehicles see of the slot's vehicles on the road. -/
def snapshots (slot : Slot α ρ) : List (Snapshot α) := slot.placed.map (·.2.snapshot)

/-- Puts a vehicle in the place of the one with its serial number. -/
def store (slot : Slot α ρ) (serial : Nat) (v : Vehicle α ρ) : Slot α ρ :=
  { slot with vehicles := slot.vehicles.setIfInBounds serial v }

/-- Takes the vehicles with the given serial numbers off the road. -/
def removeFromRoad (slot : Slot α ρ) (serials : List Nat) : Slot α ρ :=
  { slot with
    vehicles := serials.foldl (fun vs serial => vs.modify serial (·.remove)) slot.vehicles }

/-- Takes all vehicles in use off the road. -/
def removeAll (slot : Slot α ρ) : Slot α ρ := slot.removeFromRoad slot.pool

/-- Hands the slot to the traffic or to a player, and answers whether its mode admits that. A player
finds the slot without vehicles on the road. -/
def setControl (byTraffic : Bool) (slot : Slot α ρ) : Logged α (Bool × Slot α ρ) := do
  if !slot.mode.admits byTraffic then return (false, slot)
  if slot.byTraffic == byTraffic then return (true, slot)
  note (.changedControl slot.key slot.model byTraffic)
  let slot := { slot with byTraffic }
  return (true, if byTraffic then slot else slot.removeAll)

/-- Records a report of the player. -/
def hearPlayer (status : Status α) (now : Millis) (slot : Slot α ρ) : Slot α ρ :=
  { slot with player := some { status, lastActive := now, hasReported := true } }

/-- The vehicles that follow `made` others in a slot, and what they leave of the source of seeds. -/
def create (key : SlotKey) (profile : Profile α) (s : Settings α) :
    Nat → Nat → ρ → List (Vehicle α ρ) × ρ
  | 0, _, r => ([], r)
  | n + 1, made, r =>
    let (seed, r) := RandomSource.longWord r
    let (rest, r) := create key profile s n (made + 1) r
    (Vehicle.new ⟨key, made⟩ profile s seed :: rest, r)

/-- Sets how many vehicles the pool should have. It grows at once; what is too much is given up
when it comes up for being placed. -/
def setTarget (s : Settings α) (count : Nat) (slot : Slot α ρ) : Logged α (Slot α ρ) := do
  let made := slot.vehicles.size
  let missing := count - slot.pool.length
  let (new, random) := create slot.key slot.profile s missing made slot.random
  let slot := { slot with
    target := count
    vehicles := slot.vehicles ++ new.toArray
    pool := slot.pool ++ List.range' made missing
    random }
  note (.overbooked slot.key count slot.pool.length)
  return slot

/-- Moves the vehicles with the given serial numbers, and answers the first failure. -/
def updateEach (m : RoadMap α) (s : Settings α) (now : Millis) :
    List Nat → Slot α ρ → Logged α (Except DeadEnd Unit × Slot α ρ)
  | [], slot => return (.ok (), slot)
  | serial :: rest, slot => do
    match slot.vehicles[serial]? with
    | none => updateEach m s now rest slot
    | some v =>
      let (outcome, v) ← v.update m s now
      let (later, slot) ← updateEach m s now rest (slot.store serial v)
      return (if outcome matches .error _ then outcome else later, slot)

/-- Moves all vehicles in use, and answers the first failure. -/
def update (m : RoadMap α) (s : Settings α) (now : Millis) (slot : Slot α ρ) :
    Logged α (Except DeadEnd Unit × Slot α ρ) :=
  slot.updateEach m s now slot.pool

/-- Lets all vehicles in use choose their target speeds. -/
def lookOut (m : RoadMap α) (s : Settings α) (around : Surroundings α) (now : Millis)
    (slot : Slot α ρ) : Except Fault (Slot α ρ) :=
  slot.pool.foldlM (fun slot serial =>
    match slot.vehicles[serial]? with
    | none => pure slot
    | some v => return slot.store serial (← v.lookOut m s around now)) slot

/-- Whether another vehicle of the slot than the given one is on the road near a point and travels
the same way. -/
def isCrowded (m : RoadMap α) (s : Settings α) (slot : Slot α ρ) (serial : Nat) (point : PointId) :
    Bool :=
  let position := (m.point point).position
  slot.placed.any fun (other, v) =>
    other != serial &&
      decide (v.position.distanceSquared position < s.spawnSpacing * s.spawnSpacing) &&
      m.sameDirection v.point point

/-- Whether the slot's car may appear on the lane of a point. -/
def admitsLane (m : RoadMap α) (slot : Slot α ρ) (point : PointId) : Bool :=
  let lanes := m.lanes point
  slot.profile.lanes.allows (lanes.idxOf point) lanes.length

/-- Whether a vehicle may be placed at a point, which only vehicles in use of this slot may. A
vehicle that the pool should not have any more is given up instead. -/
def canPlace (m : RoadMap α) (s : Settings α) (id : VehicleId) (point : PointId)
    (slot : Slot α ρ) : Logged α (Bool × Slot α ρ) := do
  if id.slot ≠ slot.key ∨ id.serial ∉ slot.pool then return (false, slot)
  if slot.target ≤ slot.pool.idxOf id.serial then
    note (.removedSurplus slot.key)
    let slot := slot.removeFromRoad [id.serial]
    return (false, { slot with pool := slot.pool.erase id.serial })
  discard <| m.demandPoint point
  return (!slot.isCrowded m s id.serial point && slot.admitsLane m point, slot)

/-- Those of a list that are in conflict with an earlier one that stays. -/
def conflicting {β : Type} (conflict : β → β → Bool) : List β → List β
  | [] => []
  | b :: rest =>
    rest.filter (conflict b) ++ conflicting conflict (rest.filter fun c => !conflict b c)
termination_by l => l.length
decreasing_by
  have shorter := List.length_filter_le (fun c : { c // c ∈ rest } => !conflict b c.val) rest.attach
  simp only [List.length_attach] at shorter
  simpa using Nat.lt_succ_of_le shorter

/-- Whether two vehicles are too close together and travel the same way. -/
def tooClose (m : RoadMap α) (s : Settings α) (a b : Vehicle α ρ) : Bool :=
  decide (a.position.distanceSquared b.position < s.minSpacing * s.minSpacing) &&
    m.sameDirection a.point b.point

/-- Takes vehicles off the road that are too close to an earlier one, and answers their number. -/
def removeUnsafe (m : RoadMap α) (s : Settings α) (slot : Slot α ρ) :
    Logged α (Nat × Slot α ρ) := do
  let removed := conflicting (fun a b => tooClose m s a.2 b.2) slot.placed
  if removed.length > 0 then note (.removedUnsafe removed.length slot.key)
  return (removed.length, slot.removeFromRoad (removed.map (·.1)))

end Slot

end RoadTraffic
