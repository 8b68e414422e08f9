/-!
# Faults

A fault is the end of a computation on input that it is not made for: a point that the map does not
have, an empty range to keep a value in, a time past the last one. It is not an error of the
simulation, which is a value that the caller goes on with.
-/

namespace RoadTraffic

/-- Why a computation cannot go on. -/
inductive Fault where
  /-- The map has no point of this index. -/
  | missingPoint (index : Nat)
  /-- The map has no junction of this index. -/
  | missingJunction (index : Nat)
  /-- A value was to be kept in a range whose lower bound is not below its upper one. -/
  | emptyRange
  /-- A range to draw from is too wide to be measured. -/
  | unboundedRange
  /-- A time or count leaves the 64 bits that it is kept in. -/
  | overflow
  /-- A vehicle passes segments of the road without end. -/
  | endlessRoad
  deriving DecidableEq, Repr

end RoadTraffic
