import RoadTraffic.Vehicle.Outlook

/-!
# The caution of vehicles

How a vehicle chooses its target speed from what it sees. An obstacle at a short distance makes it
stop, a slower one within the outlook makes it slow down to the obstacle's speed or to walking
pace, and bends are taken at the speed that the grip allows. A vehicle that stands for long sounds
its horn, and one that stands for too long ignores all obstacles for a while.
-/

namespace RoadTraffic

namespace Vehicle

variable {α ρ : Type} [Scalar α] [RandomSource ρ]

/-- The lowest speed behind a slower obstacle, in m/s. -/
def walkingSpeed : α := 7 / (36 / 10)

/-- How long a vehicle ignores obstacles. -/
def ignoringTime : Millis := 10000

/-- How long after it has come to stand a vehicle sounds its horn. -/
def hornDelay : Interval Millis := ⟨3000, 7000⟩

/-- How long the horn sounds. -/
def hornDuration : Interval Millis := ⟨500, 1500⟩

/-- A time in which the horn sounds during a wait that began at `since`. -/
def drawHorn (since : Millis) (r : ρ) : Except Fault (Interval Millis × ρ) := do
  let (delay, r) := hornDelay.draw r
  let start ← Millis.later since delay
  let (duration, r) := hornDuration.draw r
  let finish ← Millis.later start duration
  return (⟨start, finish⟩, r)

/-- Keeps account of how long the vehicle has been standing. Once it loses patience it ignores
obstacles for a while and the next wait begins anew. -/
def watchWait (s : Settings α) (now : Millis) (v : Vehicle α ρ) : Except Fault (Vehicle α ρ) := do
  if standingSpeed ≤ v.speed.current then
    return { v with wait := { v.wait with since := none, horn := none } }
  let since := v.wait.since.getD now
  let (horn, random) ← match v.wait.horn with
    | some horn => pure (horn, v.random)
    | none => drawHorn since v.random
  let waited ← Millis.since now since
  if s.patience < waited then
    let ignoresUntil ← Millis.later now ignoringTime
    return { v with random, wait := { since := none, ignoresUntil, horn := some horn } }
  else
    return { v with random, wait := { v.wait with since := some since, horn := some horn } }

/-- What a vehicle decides in view of an obstacle. -/
structure Choice (α : Type) where
  target : α
  maxSpeed : α
  /-- Whether an obstacle, and not only the road, has limited the target. -/
  hasObstacle : Bool

/-- Whether an obstacle is slower than the vehicle and near enough to react to. -/
def reactsTo (v : Vehicle α ρ) (speed gap : α) : Prop :=
  speed < v.speed.current ∧ gap < outlookDistance (v.speed.current - speed) v.profile.deceleration

instance (v : Vehicle α ρ) (speed gap : α) : Decidable (v.reactsTo speed gap) := by
  unfold reactsTo; infer_instance

/-- The choice without an obstacle. -/
def freeChoice (v : Vehicle α ρ) : Choice α := ⟨v.initialMaxSpeed, v.initialMaxSpeed, false⟩

/-- The choice behind an obstacle of a speed. -/
def choiceBehind (v : Vehicle α ρ) (speed gap : α) : Choice α :=
  if v.reactsTo speed gap then
    { v.freeChoice with target := Scalar.max walkingSpeed speed, hasObstacle := true }
  else v.freeChoice

/-- The choice before a player, whose crawling counts as standing. -/
def choiceForPlayer (v : Vehicle α ρ) (speed gap : α) : Choice α :=
  v.choiceBehind (if speed < standingSpeed then 0 else speed) gap

/-- The choice behind another vehicle. As long as that one does not slow down, the vehicle does not
get faster than it. -/
def choiceForVehicle (v : Vehicle α ρ) (other : Snapshot α) (gap : α) : Choice α :=
  let choice := v.choiceBehind (Scalar.min other.speed other.targetSpeed) gap
  if other.speed ≤ other.targetSpeed then
    { choice with
      maxSpeed := Scalar.min (Scalar.max other.speed v.speed.current) v.initialMaxSpeed }
  else choice

/-- Whether a gap is too short to go on. -/
def isBlocked (v : Vehicle α ρ) (gap : α) : Prop := gap < v.obstacleDistance

instance (v : Vehicle α ρ) (gap : α) : Decidable (v.isBlocked gap) := by
  unfold isBlocked; infer_instance

/-- The choice between another vehicle and a player ahead. Either one that is too near makes the
vehicle stop; otherwise the nearer one counts. -/
def choose (v : Vehicle α ρ) (vehicle : Option (Snapshot α × α)) (player : Option (α × α)) :
    Choice α :=
  let stop : Choice α := { v.freeChoice with target := 0, hasObstacle := true }
  match vehicle, player with
  | none, none => v.freeChoice
  | none, some (speed, gap) => if v.isBlocked gap then stop else v.choiceForPlayer speed gap
  | some (other, gap), none => if v.isBlocked gap then stop else v.choiceForVehicle other gap
  | some (other, vehicleGap), some (speed, playerGap) =>
    if v.isBlocked vehicleGap ∨ v.isBlocked playerGap then stop
    else if playerGap < vehicleGap then v.choiceForPlayer speed playerGap
    else v.choiceForVehicle other vehicleGap

/-- The vehicle with the target speed that it chooses. For a bend it brakes more gently than for an
obstacle. -/
def heed (outlook : Outlook α) (player : Option (α × α)) (v : Vehicle α ρ) : Vehicle α ρ :=
  let choice := v.choose outlook.vehicle player
  let target := Scalar.min choice.target outlook.bendSpeed
  let deceleration :=
    if target < v.speed.current ∧ !choice.hasObstacle then
      v.profile.deceleration * v.profile.corneringBrake
    else v.profile.deceleration
  { v with maxSpeed := choice.maxSpeed }.aim (Scalar.min target choice.maxSpeed) deceleration
    v.profile.acceleration

/-- Lets the vehicle choose its target speed. -/
def lookOut (m : RoadMap α) (s : Settings α) (around : Surroundings α) (now : Millis)
    (v : Vehicle α ρ) : Except Fault (Vehicle α ρ) := do
  if !v.placed then return v
  if now < v.wait.ignoresUntil then
    return v.aim v.maxSpeed v.profile.deceleration v.profile.acceleration
  let v ← v.watchWait s now
  let (outlook, v) := v.lookAhead m around.vehicles
  return v.heed outlook (v.playerAhead around.players)

end Vehicle

end RoadTraffic
