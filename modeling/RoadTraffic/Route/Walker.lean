import RoadTraffic.Random.Uniform
import RoadTraffic.Roads.Map

/-!
# Walking the road graph

A walker goes from point to point and decides at random whether to take the junctions on its way. A
walker that remembers answers the same question about a junction always in the same way, so that
it can look ahead and then drive where it looked. Decisions are drawn when they are first needed, or
inferred: who arrives at the end of a junction along the lane did not take it, unless the opposite
was decided before.
-/

namespace RoadTraffic

/-- Which junctions are taken, as far as that is decided. -/
abbrev Decisions := List (JunctionId × Bool)

namespace Decisions

/-- The decision about a junction. -/
def get? (d : Decisions) (j : JunctionId) : Option Bool := d.lookup j

/-- Decides about a junction, whatever was decided before. -/
def insert : Decisions → JunctionId → Bool → Decisions
  | [], j, taken => [(j, taken)]
  | (k, t) :: d, j, taken => if k = j then (j, taken) :: d else (k, t) :: insert d j taken

/-- Decides about a junction that nothing is decided about. -/
def infer (d : Decisions) (j : JunctionId) (taken : Bool) : Decisions :=
  if (d.get? j).isSome then d else d.insert j taken

end Decisions

/-- A walker with its decisions and its source of new ones. -/
structure Walker (ρ : Type) where
  decisions : Decisions
  /-- Whether decisions are kept. -/
  remembers : Bool
  random : ρ
  deriving DecidableEq

namespace Walker

variable {ρ : Type} [RandomSource ρ]

/-- A walker that keeps its decisions. -/
def remembering (seed : UInt64) : Walker ρ := ⟨[], true, RandomSource.seeded seed⟩

/-- A walker that decides anew each time. -/
def forgetful (seed : UInt64) : Walker ρ := ⟨[], false, RandomSource.seeded seed⟩

/-- The walker without its decisions. -/
def clear (w : Walker ρ) : Walker ρ := { w with decisions := [] }

/-- Keeps a decision. -/
def record (w : Walker ρ) (j : JunctionId) (taken : Bool) : Walker ρ :=
  if w.remembers then { w with decisions := w.decisions.insert j taken } else w

/-- Keeps a decision that the way implies, unless there is one. -/
def infer (w : Walker ρ) (j : JunctionId) (taken : Bool) : Walker ρ :=
  if w.remembers then { w with decisions := w.decisions.infer j taken } else w

/-- Keeps that the junction of a point, if there is one, is not taken. -/
def inferPassed (w : Walker ρ) (j : Option JunctionId) : Walker ρ :=
  match j with
  | some j => w.infer j false
  | none => w

variable {α : Type} [Scalar α]

/-- Whether the walker takes a junction. -/
def takes (m : RoadMap α) (j : JunctionId) (w : Walker ρ) : Bool × Walker ρ :=
  match w.decisions.get? j with
  | some taken => (taken, w)
  | none =>
    let p := Scalar.clampTo 0 1 (m.junction j).probability
    let (taken, random) := RandomSource.happens p w.random
    (taken, { w with random }.record j taken)

/-- One step of a walk at a point whose way goes on to `along` or, through the junction `j`, to
`through`. At the end of a lane the junction is the only way. -/
def choose (m : RoadMap α) (j : Option JunctionId) (through : JunctionId → PointId)
    (along : Option PointId) (w : Walker ρ) : Option PointId × Bool × Walker ρ :=
  match j with
  | none => (along, false, w)
  | some j =>
    if along.isNone then (some (through j), true, w.record j true)
    else
      match w.takes m j with
      | (true, w) => (some (through j), true, w.record j true)
      | (false, w) => (along, false, w)

/-- The point after `id`, or none at a dead end. -/
def tryNext (m : RoadMap α) (id : PointId) (w : Walker ρ) : Option PointId × Walker ρ :=
  let p := m.point id
  match w.choose m p.branch (fun j => (m.junction j).finish) p.next with
  | (some next, false, w) => (some next, w.inferPassed (m.point next).merge)
  | (next, _, w) => (next, w)

/-- The point before `id`, or none at the beginning of a lane. -/
def tryPrevious (m : RoadMap α) (id : PointId) (w : Walker ρ) : Option PointId × Walker ρ :=
  let p := m.point id
  match w.choose m p.merge (fun j => (m.junction j).start) p.previous with
  | (some previous, false, w) => (some previous, w.inferPassed (m.point previous).branch)
  | (previous, _, w) => (previous, w)

/-- Repeats a step, and ends where there is none. -/
def repeatStep (step : PointId → Walker ρ → Option PointId × Walker ρ) :
    Nat → PointId → Walker ρ → Option PointId × Walker ρ
  | 0, id, w => (some id, w)
  | n + 1, id, w =>
    match step id w with
    | (some id, w) => repeatStep step n id w
    | (none, w) => (none, w)

/-- The point `n` steps ahead. -/
def next (m : RoadMap α) (id : PointId) (n : Nat) (w : Walker ρ) : Option PointId × Walker ρ :=
  repeatStep (tryNext m) n id w

/-- The point `n` steps back. -/
def previous (m : RoadMap α) (id : PointId) (n : Nat) (w : Walker ρ) :
    Option PointId × Walker ρ :=
  repeatStep (tryPrevious m) n id w

/-- The point a number of steps ahead, or back for a negative number. -/
def traverse (m : RoadMap α) (id : PointId) (steps : Int) (w : Walker ρ) :
    Option PointId × Walker ρ :=
  if 0 ≤ steps then w.next m id steps.natAbs else w.previous m id steps.natAbs

end Walker

end RoadTraffic
