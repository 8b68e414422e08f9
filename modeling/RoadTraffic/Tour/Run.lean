import RoadTraffic.Roads.LaneDetection
import RoadTraffic.Roads.Ring
import RoadTraffic.Simulation.Basic
import RoadTraffic.Tour.Options

/-!
# A tour of the ring road

Players go round a square road of two lanes at a steady speed while the traffic moves around them.
The journal tells from time to time how many vehicles there are and how fast they drive.
-/

namespace RoadTraffic

namespace Tour

variable {α ρ : Type} [Scalar α] [RandomSource ρ]

/-- The side of the road in m. -/
def roadSide : α := 2000

/-- The distance between points of the road in m. -/
def pointSpacing : α := 5

/-- The speed of the players in m/s. -/
def playerSpeed : α := 25

/-- The length of a step in s. -/
def stepLength : α := 5 / 100

/-- How many steps lie between two reports. -/
def reportSteps : Nat := 200

/-- What goes wrong before a tour begins. -/
inductive TourError (α : Type) where
  | map (e : MapError α)
  | settings (e : SettingsError α)

/-- The graph of the road: an outer lane and one a lane width further in. -/
def graph (s : Settings α) : Building α Unit := do
  discard <| RoadBuilder.addSpline "outer" (Site.ring roadSide pointSpacing 0) true
  discard <| RoadBuilder.addSpline "inner" (Site.ring roadSide pointSpacing s.laneWidth) true

/-- The map of the road. -/
def roadMap (s : Settings α) : Logged α (Except (TourError α) (RoadMap α)) := do
  let (outcome, builder) := (graph s).run RoadBuilder.empty
  match outcome.bind fun _ => builder.build with
  | .error e => return .error (.map e)
  | .ok m =>
    match LaneDetector.ofSettings s with
    | .error e => return .error (.settings e)
    | .ok detector =>
      let (links, m) ← detector.detect m
      note (.tourLinks links)
      return .ok m

/-- A player on the road, by the distance driven. -/
structure Driver (α : Type) where
  slot : SlotKey
  distance : α

/-- What a player reports. -/
def Driver.status (m : RoadMap α) (lane : List PointId) (d : Driver α) : Status α :=
  let place := Scalar.toNat (Nat.pow 2 64 - 1) (d.distance / pointSpacing) % lane.length
  let point := lane.getD place default
  { Status.unknown with
    position := (m.point point).position
    velocity := (m.forward point).scale playerSpeed }

/-- A tour under way. -/
structure State (α ρ : Type) where
  simulation : Simulation α ρ
  drivers : List (Driver α)
  lane : List PointId

/-- Lets all players drive for a step and report where they are. -/
def State.drive (st : State α ρ) : State α ρ :=
  let now := st.simulation.now
  let m := st.simulation.session.world.map
  let drivers := st.drivers.map fun d =>
    { d with distance := d.distance + playerSpeed * stepLength }
  let session := drivers.foldl (fun (s : Session α ρ) d =>
    s.send (.moved d.slot (d.status m st.lane) now)) st.simulation.session
  { st with drivers, simulation := { st.simulation with session } }

/-- The mean of the speeds of some reports, and minus zero without any. -/
def meanSpeed (statuses : List (Status α)) : α :=
  statuses.foldl (fun sum status => sum + status.velocity.length) (-0)
    / Scalar.ofNat (max statuses.length 1)

/-- One step of a tour, and a report if its time has come. -/
def State.step (index : Nat) (st : State α ρ) : Logged α (State α ρ) := do
  let st := st.drive
  let simulation ← st.simulation.step stepLength
  if index % reportSteps = 0 then
    let statuses := simulation.session.world.statuses.map (·.2)
    note (.tourProgress simulation.now statuses.length (meanSpeed statuses))
  return { st with simulation }

/-- The steps of a tour from the step `index` on. -/
def State.steps : Nat → Nat → State α ρ → Logged α (State α ρ)
  | 0, _, st => return st
  | n + 1, index, st => do steps n (index + 1) (← st.step index)

/-- The slots of a tour: first those of the players, then those of the traffic in three skins. -/
def addSlots (options : Options) (w : World α ρ) : World α ρ :=
  let w := (List.range options.players).foldl
    (fun (w : World α ρ) _ => w.addSlot "player" "" .players) w
  (List.range options.slots).foldl
    (fun (w : World α ρ) i => w.addSlot "traffic" ("skin_" ++ toString (i % 3)) .traffic) w

/-- A tour at its beginning, with all players connected. -/
def start (options : Options) (w : World α ρ) : State α ρ :=
  let w := addSlots options w
  let drivers : List (Driver α) := (List.range options.players).map fun i =>
    ⟨SlotKey.nth i, Scalar.ofNat i * roadSide⟩
  let simulation : Simulation α ρ := .ofWorld w
  let session := drivers.foldl (fun (s : Session α ρ) d => s.send (.connected d.slot))
    simulation.session
  let lane := ((w.map.spline? "outer").map (·.points)).getD []
  ⟨{ simulation with session }, drivers, lane⟩

/-- The settings of a tour. -/
def settings (options : Options) : Settings α :=
  { Settings.standard with seed := options.seed.map UInt64.ofNat }

/-- A whole tour. -/
def run (options : Options) : Logged α (Except (TourError α) (State α ρ)) := do
  match ← roadMap (settings options) with
  | .error e => return .error e
  | .ok m =>
    match ← World.make m (settings options) with
    | .error e => return .error (.settings e)
    | .ok w =>
      let count := Scalar.toNat (Nat.pow 2 64 - 1) ((Scalar.ofNat options.seconds : α) / stepLength)
      return .ok (← (start options w).steps count 0)

end Tour

end RoadTraffic
