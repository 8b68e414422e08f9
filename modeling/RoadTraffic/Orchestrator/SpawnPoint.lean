import RoadTraffic.World.Basic

/-!
# Where vehicles appear

A vehicle appears some way along the road from a player, ahead of the way the player drives. If
that place is not safe, the search goes on further ahead for a while. Of the lanes at a safe place
one is drawn.
-/

namespace RoadTraffic

namespace SpawnPoint

variable {α ρ : Type} [Scalar α] [RandomSource ρ]

/-- How many points further on the search looks while a place is not safe. -/
def stepPoints : Nat := 5

/-- How often the search goes on. -/
def maxSteps : Nat := 20

/-- Whether a point lies outside the safety distance of every vehicle that travels the same way,
and away from all players. -/
def isSafe (m : RoadMap α) (s : Settings α) (vehicles : List (Snapshot α)) (players : List (Vec3 α))
    (point : PointId) : Bool :=
  let position := (m.point point).position
  let blockedByVehicle := vehicles.any fun v =>
    decide (v.position.distanceSquared position < v.safetyDistanceSquared) &&
      m.sameDirection v.point point
  let blockedByPlayer := players.any fun player =>
    decide (player.distanceSquared position < Scalar.square s.playerClearance)
  !blockedByVehicle && !blockedByPlayer

/-- The first safe point on a walk, at most `steps` steps ahead. -/
def search (m : RoadMap α) (isSafe : PointId → Bool) :
    Nat → PointId → Walker ρ → Option PointId
  | 0, point, _ => if isSafe point then some point else none
  | steps + 1, point, w =>
    if isSafe point then some point
    else
      match w.next m point stepPoints with
      | (some next, w) => search m isSafe steps next w
      | (none, _) => none

/-- A distance in points as a signed number of 64 bits. -/
def signedDistance (points : Nat) : Int := Int.bmod points (Nat.pow 2 64)

/-- How many points along the road vehicles appear from a player: ahead of the player if the player
drives along the road, and back if against it. -/
def walkLength (along : Bool) (points : Nat) : Except Fault Int :=
  let distance := signedDistance points
  if along then .ok distance
  else if distance = -Int.ofNat (Nat.pow 2 63) then .error .overflow
  else .ok (-distance)

/-- One of the lanes at a point. -/
def drawLane (m : RoadMap α) (point : PointId) (r : ρ) : PointId × ρ :=
  let lanes := m.lanes point
  let (i, r) := RandomSource.between 0 (lanes.length - 1) r
  (lanes.getD i point, r)

/-- A point for a vehicle to appear at for a player, if there is a safe one that the road leads
on from. -/
def find (m : RoadMap α) (s : Settings α) (player : Player α) (vehicles : List (Snapshot α))
    (players : List (Vec3 α)) (r : ρ) : Except Fault (Option PointId × ρ) := do
  match m.nearest? player.status.position with
  | none => return (none, r)
  | some (nearest, distanceSquared) =>
    if Scalar.square s.roadReach < distanceSquared then return (none, r)
    let (points, r) := s.spawnDistance.draw r
    let along := decide (0 ≤ (m.forward nearest).dot player.status.velocity)
    let (seed, r) := RandomSource.longWord r
    let length ← walkLength along points
    let safe := isSafe m s vehicles players
    match (Walker.forgetful seed : Walker ρ).traverse m nearest length with
    | (none, _) => return (none, r)
    | (some start, w) =>
      match search m safe maxSteps start w with
      | none => return (none, r)
      | some point =>
        let (lane, r) := drawLane m point r
        return ((m.point lane).next.map fun _ => lane, r)

end SpawnPoint

end RoadTraffic
