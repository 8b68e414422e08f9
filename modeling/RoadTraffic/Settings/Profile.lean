import RoadTraffic.Scalar

/-!
# Driving profiles

How the vehicles of one car drive: its brakes, its measures, the lanes that it may appear in. A
profile is made from the general settings; overrides for a car's model and skin change single
fields of it.
-/

namespace RoadTraffic

/-- The lanes of a road, counted from the left, that a car may appear in. -/
structure AllowedLanes where
  left : Bool
  middle : Bool
  right : Bool
  deriving DecidableEq, Repr

namespace AllowedLanes

/-- No restriction. -/
def all : AllowedLanes := ⟨true, true, true⟩

instance : Inhabited AllowedLanes := ⟨all⟩

/-- Whether the lane at `index` of `count` lanes is allowed. A single lane always is. -/
def allows (a : AllowedLanes) (index count : Nat) : Bool :=
  if count ≤ 1 then true
  else if index = 0 then a.left
  else if index + 1 = count then a.right
  else a.middle

end AllowedLanes

/-- The way a car is driven. -/
structure Profile (α : Type) where
  acceleration : α
  deceleration : α
  /-- The fraction of the grip that is used in bends. -/
  corneringGrip : α
  /-- How much longer than necessary the braking distance before a bend is. -/
  corneringMargin : α
  /-- The fraction of the deceleration that is used before bends. -/
  corneringBrake : α
  /-- How high the car's origin lies above the road. -/
  heightOffset : α
  /-- The distance from the car's origin to its front bumper. -/
  frontLength : α
  /-- The distance from the car's origin to its rear bumper. -/
  rearLength : α
  tyreDiameter : α
  /-- Whether the car takes a new colour each time it appears. -/
  changesColor : Bool
  /-- How many colours there are to choose from. -/
  colors : Nat
  lanes : AllowedLanes
  /-- The largest number of vehicles that share the car's slot. -/
  vehicleLimit : Option Nat
  deriving DecidableEq

/-- Fields of a profile that are fixed for one model, or for one skin of it. -/
structure Override (α : Type) where
  model : String
  skin : Option String
  acceleration : Option α
  deceleration : Option α
  corneringGrip : Option α
  corneringMargin : Option α
  corneringBrake : Option α
  heightOffset : Option α
  frontLength : Option α
  rearLength : Option α
  tyreDiameter : Option α
  changesColor : Option Bool
  colors : Option Nat
  lanes : Option AllowedLanes
  vehicleLimit : Option Nat
  deriving DecidableEq

namespace Override

variable {α : Type}

/-- An override of nothing. -/
def ofModel (model : String) : Override α where
  model
  skin := none
  acceleration := none
  deceleration := none
  corneringGrip := none
  corneringMargin := none
  corneringBrake := none
  heightOffset := none
  frontLength := none
  rearLength := none
  tyreDiameter := none
  changesColor := none
  colors := none
  lanes := none
  vehicleLimit := none

/-- The profile with the fields that an override fixes. -/
def apply (p : Profile α) (o : Override α) : Profile α where
  acceleration := o.acceleration.getD p.acceleration
  deceleration := o.deceleration.getD p.deceleration
  corneringGrip := o.corneringGrip.getD p.corneringGrip
  corneringMargin := o.corneringMargin.getD p.corneringMargin
  corneringBrake := o.corneringBrake.getD p.corneringBrake
  heightOffset := o.heightOffset.getD p.heightOffset
  frontLength := o.frontLength.getD p.frontLength
  rearLength := o.rearLength.getD p.rearLength
  tyreDiameter := o.tyreDiameter.getD p.tyreDiameter
  changesColor := o.changesColor.getD p.changesColor
  colors := o.colors.getD p.colors
  lanes := o.lanes.getD p.lanes
  vehicleLimit := o.vehicleLimit.or p.vehicleLimit

/-- Whether an override is for all cars of a model. -/
def isForModel (model : String) (o : Override α) : Bool :=
  o.model == model && o.skin.isNone

/-- Whether an override is for one skin of a model. -/
def isForSkin (model skin : String) (o : Override α) : Bool :=
  o.model == model && o.skin == some skin

end Override

end RoadTraffic
