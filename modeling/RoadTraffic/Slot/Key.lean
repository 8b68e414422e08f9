import RoadTraffic.Roads.Basic

/-!
# Slot keys

A slot of a session is named by an index and a version, which travel as one 64-bit number: the
version in the high half and the index in the low one. Versions of keys in use are odd.
-/

namespace RoadTraffic

/-- The name of a slot. -/
structure SlotKey where
  index : Nat
  version : Nat
  deriving DecidableEq, Repr, Inhabited

namespace SlotKey

/-- The index that stands for no slot. -/
def nullIndex : Nat := Nat.pow 2 32 - 1

/-- The key of the slot that was added after `n` others. -/
def nth (n : Nat) : SlotKey := ⟨n + 1, 1⟩

/-- The key that a 64-bit number stands for. The version is made odd. -/
def ofNumber (n : Nat) : SlotKey where
  index := n % Nat.pow 2 32
  version := n / Nat.pow 2 32 ||| 1

/-- The 64-bit number of a key. -/
def number (k : SlotKey) : Nat := k.version * Nat.pow 2 32 + k.index

/-- How a slot is named in messages. -/
def label (k : SlotKey) : String :=
  if k.index = nullIndex then "SlotId(null)"
  else "SlotId(" ++ toString k.index ++ "v" ++ toString k.version ++ ")"

end SlotKey

/-- The name of a vehicle: its slot, and how many vehicles the slot had had before it. -/
structure VehicleId where
  slot : SlotKey
  serial : Nat
  deriving DecidableEq, Repr, Inhabited

/-- A vehicle cannot be placed at a point that no way leads on from. -/
structure DeadEnd where
  point : PointId
  deriving DecidableEq, Repr

/-- The sentence that tells of a dead end. -/
def DeadEnd.message (e : DeadEnd) : String := "point " ++ e.point.label ++ " has no next point"

/-- A key that no slot of the world has. -/
structure UnknownSlot where
  key : SlotKey
  deriving DecidableEq, Repr

/-- The sentence that tells of an unknown slot. -/
def UnknownSlot.message (e : UnknownSlot) : String := "unknown slot " ++ e.key.label

end RoadTraffic
