import RoadTraffic.Scalar

/-!
# The speed of a vehicle

A speed that ramps towards a target at a constant rate and never passes it. The rate is zero once
the target is reached.
-/

namespace RoadTraffic

/-- A speed on its way to a target, in m/s and m/s². -/
structure Speed (α : Type) where
  current : α
  target : α
  /-- The signed acceleration. -/
  rate : α
  deriving DecidableEq

namespace Speed

variable {α : Type} [Scalar α]

/-- A steady speed. -/
def steady (speed : α) : Speed α := ⟨speed, speed, 0⟩

/-- No speed. -/
def stopped : Speed α := ⟨0, 0, 0⟩

/-- The speed with a new target, which is not below zero. -/
def aim (s : Speed α) (target deceleration acceleration : α) : Speed α :=
  let target := Scalar.max target 0
  let rate :=
    if target < s.current then -deceleration
    else if s.current < target then acceleration
    else 0
  { s with target, rate }

/-- Whether a ramp has come to its target or beyond. -/
def hasReached (s : Speed α) : Prop :=
  (0 < s.rate ∧ s.target ≤ s.current) ∨ (s.rate < 0 ∧ s.current ≤ s.target)

instance (s : Speed α) : Decidable s.hasReached := by unfold hasReached; infer_instance

/-- The speed `dt` seconds along its ramp, which ends at the target. -/
def ramp (s : Speed α) (dt : α) : Speed α :=
  if s.rate ≤ 0 ∧ 0 ≤ s.rate then s
  else
    let moved := { s with current := s.current + s.rate * dt }
    if moved.hasReached then { moved with current := s.target, rate := 0 } else moved

/-- The speed after `dt` seconds, held between zero and a limit, and the distance driven. -/
def advance (s : Speed α) (dt limit : α) : α × Speed α :=
  let ramped := s.ramp dt
  let held := { ramped with current := Scalar.clampTo 0 (Scalar.max limit 0) ramped.current }
  (1 / 2 * (s.current + held.current) * dt, held)

end Speed

end RoadTraffic
