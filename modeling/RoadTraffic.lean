import RoadTraffic.Main
import RoadTraffic.Json.Reader
import RoadTraffic.Orchestrator.Document
import RoadTraffic.Random.ChaCha
import RoadTraffic.Route.Query
import RoadTraffic.Simulation.Runner
import RoadTraffic.Slot.Document
import RoadTraffic.Tour.Run
import RoadTraffic.Proofs.Orchestrator.Control
import RoadTraffic.Proofs.Orchestrator.Evenness
import RoadTraffic.Proofs.Orchestrator.Players
import RoadTraffic.Proofs.Orchestrator.Recycling
import RoadTraffic.Proofs.Orchestrator.Spacing
import RoadTraffic.Proofs.Orchestrator.SpawnPoint
import RoadTraffic.Proofs.Roads.Acceptance
import RoadTraffic.Proofs.Roads.Adjacent
import RoadTraffic.Proofs.Roads.References
import RoadTraffic.Proofs.Roads.Rows
import RoadTraffic.Proofs.Route.Foresight
import RoadTraffic.Proofs.Scalar.Real
import RoadTraffic.Proofs.Settings.Overrides
import RoadTraffic.Proofs.Settings.Schedule
import RoadTraffic.Proofs.Simulation.Rates
import RoadTraffic.Proofs.Slot.Clearance
import RoadTraffic.Proofs.Slot.Pool
import RoadTraffic.Proofs.Vehicle.Bends
import RoadTraffic.Proofs.Vehicle.DeadEnd
import RoadTraffic.Proofs.Vehicle.Distance
import RoadTraffic.Proofs.Vehicle.FreshStart
import RoadTraffic.Proofs.Vehicle.Ramp
import RoadTraffic.Proofs.Vehicle.Renewal
import RoadTraffic.Proofs.Vehicle.Signal
import RoadTraffic.Proofs.Vehicle.Standing
import RoadTraffic.Proofs.Vehicle.TickRate
