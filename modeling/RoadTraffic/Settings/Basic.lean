import RoadTraffic.Interval
import RoadTraffic.Settings.Error
import RoadTraffic.Settings.Profile

/-!
# Settings

The numbers that traffic is tuned by, their usual values, the checks that they have to pass, and
what is read off them: the density at a time of day and the profile of a car.

Distances are in m, speeds in m/s, accelerations in m/s² and times in ms.
-/

namespace RoadTraffic

/-- The settings of a simulation. -/
structure Settings (α : Type) where
  /-- The distance between the middles of neighbouring lanes. -/
  laneWidth : α
  /-- How far a neighbouring lane may lie from where it is expected. -/
  laneRadius : α
  /-- Whether oncoming lanes count as neighbours. -/
  twoWay : Bool
  /-- The number of vehicles wanted for each player. -/
  vehiclesPerPlayer : Nat
  /-- The largest number of vehicles altogether. -/
  vehicleLimit : Nat
  /-- The factor on `vehiclesPerPlayer`. -/
  density : α
  /-- A density for each hour of the day, which replaces `density`. -/
  hourlyDensity : Option (List α)
  /-- How many points ahead of a player vehicles appear. -/
  spawnDistance : Interval Nat
  /-- How far from the road a player still attracts traffic. -/
  roadReach : α
  /-- The radius around a player in which no vehicle is taken away. -/
  playerRadius : α
  /-- How far ahead of a player this radius is centred. -/
  playerLead : α
  /-- After how long a silent player no longer attracts traffic. -/
  idleTimeout : Millis
  /-- Vehicles of one slot that travel the same way keep this distance. -/
  minSpacing : α
  /-- A vehicle appears at this distance from others of its slot. -/
  spawnSpacing : α
  /-- A vehicle appears at this distance from players. -/
  playerClearance : α
  /-- The safety distance that a vehicle asks of others that appear. -/
  safetyDistance : Interval α
  /-- How long a new vehicle is left alone. -/
  spawnProtection : Interval Millis
  maxSpeed : α
  /-- How widely the speed of vehicles varies, in relation to `maxSpeed`. -/
  speedVariation : α
  /-- What a vehicle drives faster in a lane that has another one to its right. -/
  fastLaneBonus : α
  acceleration : α
  deceleration : α
  corneringGrip : α
  corneringMargin : α
  corneringBrake : α
  /-- An obstacle at less than this distance makes a vehicle stop. -/
  obstacleDistance : α
  /-- After how long a stopped vehicle ignores obstacles. -/
  patience : Millis
  /-- How often vehicles move. -/
  updateInterval : Millis
  /-- How often vehicles look out for obstacles. -/
  obstacleInterval : Millis
  /-- How often vehicles appear. -/
  behaviorInterval : Millis
  idleRpm : α
  maxRpm : α
  tyreDiameter : α
  /-- Whether the places where vehicles appear are recorded as shapes. -/
  recordsOverlay : Bool
  seed : Option UInt64
  overrides : List (Override α)

namespace Settings

variable {α : Type} [Scalar α]

/-- The usual settings. -/
def standard : Settings α where
  laneWidth := 3
  laneRadius := 2
  twoWay := false
  vehiclesPerPlayer := 10
  vehicleLimit := 300
  density := 1
  hourlyDensity := none
  spawnDistance := ⟨100, 400⟩
  roadReach := 7
  playerRadius := 200
  playerLead := 100
  idleTimeout := 10000
  minSpacing := 200
  spawnSpacing := 1000
  playerClearance := 150
  safetyDistance := ⟨20, 70⟩
  spawnProtection := ⟨4000, 8000⟩
  maxSpeed := 80 / (36 / 10)
  speedVariation := 15 / 100
  fastLaneBonus := 10 / (36 / 10)
  acceleration := 25 / 10
  deceleration := 85 / 10
  corneringGrip := 65 / 100
  corneringMargin := 3
  corneringBrake := 5 / 10
  obstacleDistance := 15
  patience := 10000
  updateInterval := 50
  obstacleInterval := 100
  behaviorInterval := 500
  idleRpm := 800
  maxRpm := 3000
  tyreDiameter := 65 / 100
  recordsOverlay := false
  seed := none
  overrides := []

instance : Inhabited (Settings α) := ⟨standard⟩

/-- How many times the detection radius lanes have to be wide, so that a point never finds
itself beside itself. -/
def minWidthFactor : α := 105 / 100

/-- The settings that have to be positive, in the order in which they are checked. -/
def positives (s : Settings α) : List (Setting × α) :=
  [ (.laneWidth, s.laneWidth), (.laneRadius, s.laneRadius), (.maxSpeed, s.maxSpeed),
    (.acceleration, s.acceleration), (.deceleration, s.deceleration),
    (.corneringGrip, s.corneringGrip), (.corneringBrake, s.corneringBrake),
    (.updateInterval, Scalar.ofNat s.updateInterval),
    (.obstacleInterval, Scalar.ofNat s.obstacleInterval),
    (.behaviorInterval, Scalar.ofNat s.behaviorInterval) ]

/-- The number of hours that a daily schedule has. -/
def hoursPerDay : Nat := 24

/-- Refuses settings that no simulation works with. -/
def check (s : Settings α) : Except (SettingsError α) Unit := do
  if let some (setting, value) := s.positives.find? fun p => ¬ 0 < p.2 then
    throw (.notPositive setting value)
  if s.density < 0 then throw (.notPositive .density s.density)
  if s.laneWidth < minWidthFactor * s.laneRadius then
    throw (.narrowLanes s.laneWidth s.laneRadius)
  unless s.spawnDistance.isOrdered do throw (.invertedRange .spawnDistance)
  unless s.safetyDistance.isOrdered do throw (.invertedRange .safetyDistance)
  unless s.spawnProtection.isOrdered do throw (.invertedRange .spawnProtection)
  if s.spawnSpacing < s.minSpacing then throw (.ordering .spawnSpacing .minSpacing)
  if let some hours := s.hourlyDensity then
    unless hours.length = hoursPerDay do throw (.scheduleLength hours.length)

/-- The value of a daily schedule at an hour, in a straight line between full hours. -/
def scheduled (hours : List α) (hour : α) : α :=
  let hour := Scalar.modulo hour 24
  let index := Scalar.toNat (Nat.pow 2 64 - 1) (Scalar.floor hour) % hoursPerDay
  let next := (index + 1) % hoursPerDay
  Scalar.lerp (hours.getD index 0) (hours.getD next 0) (hour - Scalar.floor hour)

/-- The density at an hour of the day. A schedule of another length than a day's counts as none. -/
def densityAt (s : Settings α) (hour : α) : α :=
  match s.hourlyDensity with
  | some hours => if hours.length = hoursPerDay then scheduled hours hour else s.density
  | none => s.density

/-- The profile of a car without overrides. -/
def profile (s : Settings α) : Profile α where
  acceleration := s.acceleration
  deceleration := s.deceleration
  corneringGrip := s.corneringGrip
  corneringMargin := s.corneringMargin
  corneringBrake := s.corneringBrake
  heightOffset := 0
  frontLength := 2
  rearLength := 2
  tyreDiameter := s.tyreDiameter
  changesColor := false
  colors := 1
  lanes := .all
  vehicleLimit := none

/-- The profile of a car: the overrides for its model are applied first, those for its skin on
top of them, each in the order of the list. -/
def profileFor (s : Settings α) (model skin : String) : Profile α :=
  let forModel := s.overrides.filter (·.isForModel model)
  let forSkin := s.overrides.filter (·.isForSkin model skin)
  (forModel ++ forSkin).foldl Override.apply s.profile

end Settings

end RoadTraffic
