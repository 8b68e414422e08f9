import RoadTraffic.Decimal.Text

/-!
# What can be wrong with the settings
-/

namespace RoadTraffic

/-- The settings that are named in messages. -/
inductive Setting where
  | laneWidth
  | laneRadius
  | maxSpeed
  | acceleration
  | deceleration
  | corneringGrip
  | corneringBrake
  | updateInterval
  | obstacleInterval
  | behaviorInterval
  | density
  | spawnDistance
  | safetyDistance
  | spawnProtection
  | spawnSpacing
  | minSpacing
  deriving DecidableEq, Repr

/-- The name of a setting in messages and documents. -/
def Setting.name : Setting → String
  | laneWidth => "lane_width"
  | laneRadius => "lane_detection_radius"
  | maxSpeed => "max_speed"
  | acceleration => "default_acceleration"
  | deceleration => "default_deceleration"
  | corneringGrip => "cornering_speed_factor"
  | corneringBrake => "cornering_brake_force_factor"
  | updateInterval => "update_interval"
  | obstacleInterval => "obstacle_interval"
  | behaviorInterval => "behavior_interval"
  | density => "traffic_density"
  | spawnDistance => "spawn_distance_points"
  | safetyDistance => "safety_distance"
  | spawnProtection => "spawn_protection"
  | spawnSpacing => "state_spawn_distance"
  | minSpacing => "min_state_distance"

/-- Why settings are refused. -/
inductive SettingsError (α : Type) where
  /-- Lanes this narrow lie within the radius in which they are looked for. -/
  | narrowLanes (width radius : α)
  | invertedRange (setting : Setting)
  | notPositive (setting : Setting) (value : α)
  /-- A daily schedule has another number of hours. -/
  | scheduleLength (hours : Nat)
  /-- The first setting is below the second one. -/
  | ordering (larger smaller : Setting)
  deriving DecidableEq

/-- The sentence that tells why settings are refused. -/
def SettingsError.message : SettingsError Float → String
  | .narrowLanes width radius =>
    "lane width " ++ Decimal.text width ++ " m must be at least 1.05 times the detection radius "
      ++ Decimal.text radius ++ " m"
  | .invertedRange setting => "`" ++ setting.name ++ "` has its minimum above its maximum"
  | .notPositive setting value =>
    "`" ++ setting.name ++ "` must be positive, got " ++ Decimal.text value
  | .scheduleLength hours => "hourly traffic density needs 24 values, got " ++ toString hours
  | .ordering larger smaller =>
    "`" ++ larger.name ++ "` must be at least `" ++ smaller.name ++ "`"

end RoadTraffic
