import RoadTraffic.Orchestrator.Basic

/-!
# Letting vehicles appear

The players are drawn one after the other, those far from traffic more often first. For each a safe
point is looked for, and the first vehicle that may be placed there appears. Vehicles that are not
on the road are used first, then those that no player is near to, the farthest first.
-/

namespace RoadTraffic

namespace Session

variable {α ρ : Type} [Scalar α] [RandomSource ρ]

/-- The vehicles of some slots, and which of them are free to be placed. -/
structure Traffic (α ρ : Type) where
  placed : List (VehicleId × Vehicle α ρ)
  waiting : List VehicleId

/-- Takes unsafe vehicles of all slots that the traffic drives off the road. -/
def removeUnsafe (w : World α ρ) : Logged α (World α ρ) := do
  let slots ← w.slots.toList.mapM fun slot =>
    if slot.byTraffic then (·.2) <$> slot.removeUnsafe w.map w.settings else pure slot
  return { w with slots := slots.toArray }

/-- The vehicles of all slots that the traffic drives. -/
def traffic (w : World α ρ) : Traffic α ρ where
  placed := w.trafficSlots.flatMap fun slot =>
    slot.placed.map fun (serial, v) => (⟨slot.key, serial⟩, v)
  waiting := w.trafficSlots.flatMap fun slot =>
    slot.waiting.map fun (serial, _) => ⟨slot.key, serial⟩

/-- The square of the distance from a position to the nearest of some others. -/
def nearestSquared (position : Vec3 α) (others : List (Vec3 α)) : α :=
  others.foldl (fun least other => Scalar.min least (position.distanceSquared other))
    Scalar.infinity

/-- Sorts pairs by their second part, the largest first; equal ones keep their order. -/
def farthestFirst {β : Type} (pairs : List (β × α)) : List β :=
  (pairs.mergeSort fun a b => Scalar.totalLe b.2 a.2).map (·.1)

/-- Whether a vehicle may be taken from where it is: it is out of the players' radius and its
protection has ended. `distanceSquared` is that to the nearest focus of a player. -/
def isRecyclable (s : Settings α) (now : Millis) (v : Vehicle α ρ) (distanceSquared : α) : Bool :=
  decide (s.playerRadius * s.playerRadius < distanceSquared) && decide (v.protectedUntil < now)

/-- The vehicles that may be placed, in the order in which they are tried. -/
def candidates (s : Settings α) (now : Millis) (t : Traffic α ρ) (foci : List (Vec3 α)) :
    List VehicleId :=
  let measured := t.placed.map fun (c, v) => (c, v, nearestSquared v.position foci)
  let recyclable := measured.filter fun (_, v, d) => isRecyclable s now v d
  t.waiting ++ farthestFirst (recyclable.map fun (c, _, d) => (c, d))

/-- The players in the order in which they are favoured: those farther from all vehicles first. -/
def playerOrder {β : Type} (t : Traffic α ρ) (players : List (β × Vec3 α)) : List β :=
  let positions := t.placed.map (·.2.position)
  farthestFirst (players.map fun (player, focus) =>
    (player, positions.foldl
      (fun least p => Scalar.min least (p.distanceSquared focus)) Scalar.infinity))

/-- What changes while vehicles appear. -/
structure Spawning (α ρ : Type) where
  world : World α ρ
  random : ρ
  /-- The vehicles still to be tried. -/
  candidates : List VehicleId
  /-- What is seen of all vehicles on the road. -/
  snapshots : List (Snapshot α)
  overlay : Array (Shape α)
  spawned : Nat

/-- The first candidate that may be placed at a point. Those that are tried may leave the pool. -/
def firstFor (point : PointId) :
    List VehicleId → World α ρ → Logged α (Option VehicleId × World α ρ)
  | [], w => return (none, w)
  | c :: rest, w => do
    match w.slot? c.slot with
    | none => firstFor point rest w
    | some slot =>
      let (admitted, slot) ← slot.canPlace w.map w.settings c point
      let w := w.store slot
      if admitted then return (some c, w) else firstFor point rest w

/-- The shapes that show where a vehicle appeared for a player. -/
def spawnShapes (player position : Vec3 α) (safetyDistanceSquared : α) : Array (Shape α) :=
  #[.line "spawn" player position,
    .sphere "spawn_safety" position (Scalar.sqrt safetyDistanceSquared)]

/-- Places a candidate at a point for a player. -/
def placeCandidate (now : Millis) (playerSlot : SlotKey) (player : Player α) (point : PointId)
    (c : VehicleId) (sp : Spawning α ρ) : Logged α (Except DeadEnd Unit × Spawning α ρ) := do
  let w := sp.world
  let sp := { sp with candidates := sp.candidates.erase c }
  match (w.slot? c.slot).bind fun slot => (slot.vehicles[c.serial]?).map fun v => (slot, v) with
  | none => return (.ok (), sp)
  | some (slot, v) =>
    let (outcome, v) ← v.place w.map w.settings point now true
    let sp := { sp with world := w.store (slot.store c.serial v) }
    match outcome with
    | .error e => return (.error e, sp)
    | .ok () =>
      note (.spawned c.slot point playerSlot)
      let shapes :=
        if w.settings.recordsOverlay then
          spawnShapes player.status.position (w.map.point point).position v.safetyDistanceSquared
        else #[]
      return (.ok (), { sp with
        snapshots := sp.snapshots ++ [v.snapshot]
        overlay := sp.overlay ++ shapes
        spawned := sp.spawned + 1 })

/-- Lets a vehicle appear for a player, if there is a point and a vehicle for it. -/
def spawnFor (now : Millis) (players : List (Vec3 α)) (playerSlot : SlotKey) (player : Player α)
    (sp : Spawning α ρ) : Logged α (Except DeadEnd Unit × Spawning α ρ) := do
  let w := sp.world
  let (point, random) ← SpawnPoint.find w.map w.settings player sp.snapshots players sp.random
  let sp := { sp with random }
  match point with
  | none =>
    note (.noSpawnPoint playerSlot)
    return (.ok (), sp)
  | some point =>
    let (candidate, world) ← firstFor point sp.candidates w
    let sp := { sp with world }
    match candidate with
    | none =>
      note (.noVehicleFor point)
      return (.ok (), sp)
    | some c => placeCandidate now playerSlot player point c sp

/-- Weights by which the players of a list are drawn: the first one has the greatest. -/
def playerWeights (n : Nat) : List Nat := (List.range n).map fun i => n - i

/-- Draws players until none or no candidate is left, at most `turns` times. -/
def spawnInTurns (now : Millis) (players : List (Vec3 α)) :
    Nat → List (SlotKey × Player α) → Spawning α ρ → Logged α (Except DeadEnd Unit × Spawning α ρ)
  | 0, _, sp => return (.ok (), sp)
  | turns + 1, order, sp => do
    if order.isEmpty || sp.candidates.isEmpty then return (.ok (), sp)
    let (i, random) := RandomSource.weighted (playerWeights order.length) sp.random
    let sp := { sp with random }
    match order[i]? with
    | none => return (.ok (), sp)
    | some (playerSlot, player) =>
      match ← spawnFor now players playerSlot player sp with
      | (.error e, sp) => return (.error e, sp)
      | (.ok (), sp) => spawnInTurns now players turns (order.eraseIdx i) sp

/-- Lets vehicles appear near the active players, and answers their number. -/
def spawn (now : Millis) (s : Session α ρ) : Logged α (Except DeadEnd Nat × Session α ρ) := do
  let world ← removeUnsafe s.world
  let s := { s with world }
  let players := world.activePlayers now
  if players.isEmpty then return (.ok 0, s)
  let focused := players.map fun p => (p, p.2.focus world.settings.playerLead)
  let t := traffic world
  let start : Spawning α ρ := {
    world
    random := s.orchestrator.random
    candidates := candidates world.settings now t (focused.map (·.2))
    snapshots := world.snapshots
    overlay := s.orchestrator.overlay
    spawned := 0 }
  let positions := players.map (·.2.status.position)
  let (outcome, sp) ← spawnInTurns now positions players.length (playerOrder t focused) start
  let s := {
    world := sp.world
    orchestrator := { s.orchestrator with random := sp.random, overlay := sp.overlay } }
  return (outcome.map fun _ => sp.spawned, s)

/-- One tick of the orchestrator. Answers how many vehicles have appeared. -/
def tick (now : Millis) (s : Session α ρ) : Logged α (Except DeadEnd Nat × Session α ρ) := do
  let s ← s.handleEvents
  let s ← s.distributeIfDue now
  s.spawn now

/-- Takes the shapes recorded so far. -/
def takeOverlay (s : Session α ρ) : Array (Shape α) × Session α ρ :=
  (s.orchestrator.overlay,
    { s with orchestrator := { s.orchestrator with overlay := #[] } })

end Session

end RoadTraffic
