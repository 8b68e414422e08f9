import RoadTraffic.Json.Decode
import RoadTraffic.Settings.Basic

/-!
# Settings as documents

Every setting is a field of an object, and one that is left out keeps its usual value. Time is in
milliseconds.
-/

namespace RoadTraffic

namespace Json

/-- Allowed lanes by name. -/
def asLanes (j : Json) : Option AllowedLanes := do
  let j ← asObject j
  return ⟨← asBool (j.get "left"), ← asBool (j.get "middle"), ← asBool (j.get "right")⟩

/-- An override. -/
def asOverride (j : Json) : Option (Override Float) := do
  let j ← asObject j
  return {
    model := ← fieldOr j "model" asString ""
    skin := ← optional asString (j.get "skin")
    acceleration := ← optional asNumber (j.get "acceleration")
    deceleration := ← optional asNumber (j.get "deceleration")
    corneringGrip := ← optional asNumber (j.get "cornering_speed_factor")
    corneringMargin := ← optional asNumber (j.get "cornering_brake_distance_factor")
    corneringBrake := ← optional asNumber (j.get "cornering_brake_force_factor")
    heightOffset := ← optional asNumber (j.get "spline_height_offset")
    frontLength := ← optional asNumber (j.get "vehicle_length_pre")
    rearLength := ← optional asNumber (j.get "vehicle_length_post")
    tyreDiameter := ← optional asNumber (j.get "tyre_diameter")
    changesColor := ← optional asBool (j.get "allow_color_change")
    colors := ← optional (asNatBelow 256) (j.get "color_variants")
    lanes := ← optional asLanes (j.get "allowed_lanes")
    vehicleLimit := ← optional asNat (j.get "max_overbooking") }

/-- The settings, by default the usual ones. -/
def asSettings (j : Json) : Option (Settings Float) := do
  if let .null := j then return .standard
  let j ← asObject j
  let d : Settings Float := .standard
  return {
    laneWidth := ← fieldOr j "lane_width" asNumber d.laneWidth
    laneRadius := ← fieldOr j "lane_detection_radius" asNumber d.laneRadius
    twoWay := ← fieldOr j "two_way_traffic" asBool d.twoWay
    vehiclesPerPlayer := ← fieldOr j "ai_per_player_target_count" asNat d.vehiclesPerPlayer
    vehicleLimit := ← fieldOr j "max_ai_target_count" asNat d.vehicleLimit
    density := ← fieldOr j "traffic_density" asNumber d.density
    hourlyDensity := ← optional (asListOf asNumber) (j.get "hourly_traffic_density")
    spawnDistance := ← fieldOr j "spawn_distance_points" (asInterval asNat) d.spawnDistance
    roadReach := ← fieldOr j "max_player_distance_to_spline" asNumber d.roadReach
    playerRadius := ← fieldOr j "player_radius" asNumber d.playerRadius
    playerLead := ← fieldOr j "player_position_offset" asNumber d.playerLead
    idleTimeout := ← fieldOr j "player_afk_timeout" asNat d.idleTimeout
    minSpacing := ← fieldOr j "min_state_distance" asNumber d.minSpacing
    spawnSpacing := ← fieldOr j "state_spawn_distance" asNumber d.spawnSpacing
    playerClearance := ← fieldOr j "spawn_safety_distance_to_player" asNumber d.playerClearance
    safetyDistance := ← fieldOr j "safety_distance" (asInterval asNumber) d.safetyDistance
    spawnProtection := ← fieldOr j "spawn_protection" (asInterval asNat) d.spawnProtection
    maxSpeed := ← fieldOr j "max_speed" asNumber d.maxSpeed
    speedVariation := ← fieldOr j "max_speed_variation" asNumber d.speedVariation
    fastLaneBonus := ← fieldOr j "fast_lane_offset" asNumber d.fastLaneBonus
    acceleration := ← fieldOr j "default_acceleration" asNumber d.acceleration
    deceleration := ← fieldOr j "default_deceleration" asNumber d.deceleration
    corneringGrip := ← fieldOr j "cornering_speed_factor" asNumber d.corneringGrip
    corneringMargin := ← fieldOr j "cornering_brake_distance_factor" asNumber d.corneringMargin
    corneringBrake := ← fieldOr j "cornering_brake_force_factor" asNumber d.corneringBrake
    obstacleDistance := ← fieldOr j "min_obstacle_distance" asNumber d.obstacleDistance
    patience := ← fieldOr j "ignore_obstacles_after" asNat d.patience
    updateInterval := ← fieldOr j "update_interval" asNat d.updateInterval
    obstacleInterval := ← fieldOr j "obstacle_interval" asNat d.obstacleInterval
    behaviorInterval := ← fieldOr j "behavior_interval" asNat d.behaviorInterval
    idleRpm := ← fieldOr j "idle_engine_rpm" asNumber d.idleRpm
    maxRpm := ← fieldOr j "max_engine_rpm" asNumber d.maxRpm
    tyreDiameter := ← fieldOr j "tyre_diameter" asNumber d.tyreDiameter
    recordsOverlay := ← fieldOr j "debug_overlay" asBool d.recordsOverlay
    seed := (← optional asNat (j.get "seed")).map UInt64.ofNat
    overrides := ← fieldOr j "car_overrides" (asListOf asOverride) d.overrides }

/-- Allowed lanes by name. -/
def ofLanes (l : AllowedLanes) : Json :=
  .obj [("left", .bool l.left), ("middle", .bool l.middle), ("right", .bool l.right)]

/-- An override. -/
def ofOverride (o : Override Float) : Json := .obj [
  ("model", .str o.model), ("skin", ofOption .str o.skin),
  ("acceleration", ofOption ofFloat o.acceleration),
  ("deceleration", ofOption ofFloat o.deceleration),
  ("cornering_speed_factor", ofOption ofFloat o.corneringGrip),
  ("cornering_brake_distance_factor", ofOption ofFloat o.corneringMargin),
  ("cornering_brake_force_factor", ofOption ofFloat o.corneringBrake),
  ("spline_height_offset", ofOption ofFloat o.heightOffset),
  ("vehicle_length_pre", ofOption ofFloat o.frontLength),
  ("vehicle_length_post", ofOption ofFloat o.rearLength),
  ("tyre_diameter", ofOption ofFloat o.tyreDiameter),
  ("allow_color_change", ofOption .bool o.changesColor),
  ("color_variants", ofOption ofNat o.colors), ("allowed_lanes", ofOption ofLanes o.lanes),
  ("max_overbooking", ofOption ofNat o.vehicleLimit)]

/-- The settings. -/
def ofSettings (s : Settings Float) : Json := .obj [
  ("lane_width", ofFloat s.laneWidth), ("lane_detection_radius", ofFloat s.laneRadius),
  ("two_way_traffic", .bool s.twoWay), ("ai_per_player_target_count", ofNat s.vehiclesPerPlayer),
  ("max_ai_target_count", ofNat s.vehicleLimit), ("traffic_density", ofFloat s.density),
  ("hourly_traffic_density", ofOption (fun hours => .arr (hours.map ofFloat)) s.hourlyDensity),
  ("spawn_distance_points", ofInterval ofNat s.spawnDistance),
  ("max_player_distance_to_spline", ofFloat s.roadReach),
  ("player_radius", ofFloat s.playerRadius), ("player_position_offset", ofFloat s.playerLead),
  ("player_afk_timeout", ofNat s.idleTimeout), ("min_state_distance", ofFloat s.minSpacing),
  ("state_spawn_distance", ofFloat s.spawnSpacing),
  ("spawn_safety_distance_to_player", ofFloat s.playerClearance),
  ("safety_distance", ofInterval ofFloat s.safetyDistance),
  ("spawn_protection", ofInterval ofNat s.spawnProtection), ("max_speed", ofFloat s.maxSpeed),
  ("max_speed_variation", ofFloat s.speedVariation), ("fast_lane_offset", ofFloat s.fastLaneBonus),
  ("default_acceleration", ofFloat s.acceleration),
  ("default_deceleration", ofFloat s.deceleration),
  ("cornering_speed_factor", ofFloat s.corneringGrip),
  ("cornering_brake_distance_factor", ofFloat s.corneringMargin),
  ("cornering_brake_force_factor", ofFloat s.corneringBrake),
  ("min_obstacle_distance", ofFloat s.obstacleDistance),
  ("ignore_obstacles_after", ofNat s.patience), ("update_interval", ofNat s.updateInterval),
  ("obstacle_interval", ofNat s.obstacleInterval), ("behavior_interval", ofNat s.behaviorInterval),
  ("idle_engine_rpm", ofFloat s.idleRpm), ("max_engine_rpm", ofFloat s.maxRpm),
  ("tyre_diameter", ofFloat s.tyreDiameter), ("debug_overlay", .bool s.recordsOverlay),
  ("seed", ofOption (fun n => ofNat n.toNat) s.seed),
  ("car_overrides", .arr (s.overrides.map ofOverride))]

/-- A profile. -/
def ofProfile (p : Profile Float) : Json := .obj [
  ("acceleration", ofFloat p.acceleration), ("deceleration", ofFloat p.deceleration),
  ("cornering_speed_factor", ofFloat p.corneringGrip),
  ("cornering_brake_distance_factor", ofFloat p.corneringMargin),
  ("cornering_brake_force_factor", ofFloat p.corneringBrake),
  ("spline_height_offset", ofFloat p.heightOffset), ("vehicle_length_pre", ofFloat p.frontLength),
  ("vehicle_length_post", ofFloat p.rearLength), ("tyre_diameter", ofFloat p.tyreDiameter),
  ("allow_color_change", .bool p.changesColor), ("color_variants", ofNat p.colors),
  ("allowed_lanes", .arr [.bool p.lanes.left, .bool p.lanes.middle, .bool p.lanes.right]),
  ("max_overbooking", ofOption ofNat p.vehicleLimit)]

end Json

end RoadTraffic
