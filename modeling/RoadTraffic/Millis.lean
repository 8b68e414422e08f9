import RoadTraffic.Fault

/-!
# Session time

Times and durations in whole milliseconds. They are kept in 64 bits, and a sum that needs more is
a fault. Differences that may be negative are taken with the truncated subtraction of `Nat`.
-/

namespace RoadTraffic

/-- A session time or a duration in milliseconds. -/
abbrev Millis := Nat

namespace Millis

/-- The last time there is. -/
def last : Millis := Nat.pow 2 64 - 1

/-- The time a duration after another one. -/
def later (time duration : Millis) : Except Fault Millis :=
  if time + duration ≤ last then .ok (time + duration) else .error .overflow

/-- The duration since an earlier time. -/
def since (now earlier : Millis) : Except Fault Millis :=
  if earlier ≤ now then .ok (now - earlier) else .error .overflow

end Millis

end RoadTraffic
