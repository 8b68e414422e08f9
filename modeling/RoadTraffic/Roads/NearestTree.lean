import RoadTraffic.Roads.Basic

/-!
# Nearest points

A tree over positions that is halved along `x`, `y` and `z` in turn. The node of a subtree is the
median along the axis of its depth: nothing below it is larger on that axis and nothing above it is
smaller. A search looks at the near half first and skips the far half when the plane between them
is no closer than the best point found.
-/

namespace RoadTraffic

/-- A coordinate axis. -/
inductive Axis where
  | x
  | y
  | z
  deriving DecidableEq, Repr

namespace Axis

/-- The axis that the next level of a tree is halved along. -/
def succ : Axis → Axis
  | x => y
  | y => z
  | z => x

/-- The coordinate of a position on an axis. -/
def of {α : Type} (p : Vec3 α) : Axis → α
  | x => p.x
  | y => p.y
  | z => p.z

end Axis

/-- A binary tree with a position and its point at every node. -/
inductive NearestTree (α : Type) where
  | empty
  | node (position : Vec3 α) (id : PointId) (lower upper : NearestTree α)

namespace NearestTree

variable {α : Type} [Scalar α]

/-- A list sorted along an axis; equal coordinates keep their order. -/
def sortAlong (axis : Axis) (sites : List (Vec3 α × PointId)) : List (Vec3 α × PointId) :=
  sites.mergeSort fun a b => Scalar.totalLe (axis.of a.1) (axis.of b.1)

/-- The tree over a list of positions, with at most `levels` levels. -/
def build : Nat → Axis → List (Vec3 α × PointId) → NearestTree α
  | 0, _, _ => empty
  | levels + 1, axis, sites =>
    let sorted := sortAlong axis sites
    let middle := sites.length / 2
    match sorted.drop middle with
    | [] => empty
    | (position, id) :: upper =>
      node position id (build levels axis.succ (sorted.take middle)) (build levels axis.succ upper)

/-- The tree over a list of positions. Every level takes one site away at least. -/
def ofSites (sites : List (Vec3 α × PointId)) : NearestTree α := build sites.length .x sites

/-- A point and the square of its distance to the target. -/
abbrev Found (α : Type) := Option (PointId × α)

/-- The better of two finds, the earlier one if they are equally near. -/
def Found.offer (best : Found α) (id : PointId) (d : α) : Found α :=
  match best with
  | none => some (id, d)
  | some (_, b) => if d < b then some (id, d) else best

/-- Whether a squared distance is below that of a find. -/
def Found.reaches (best : Found α) (d : α) : Bool :=
  match best with
  | none => true
  | some (_, b) => decide (d < b)

/-- Goes on with a search in a subtree that is halved along `axis` first. -/
def search (target : Vec3 α) : Axis → NearestTree α → Found α → Found α
  | _, empty, best => best
  | axis, node position id lower upper, best =>
    let best := Found.offer best id (position.distanceSquared target)
    let delta := axis.of target - axis.of position
    if delta < 0 then
      let best := search target axis.succ lower best
      if Found.reaches best (delta * delta) then search target axis.succ upper best else best
    else
      let best := search target axis.succ upper best
      if Found.reaches best (delta * delta) then search target axis.succ lower best else best

/-- The point nearest to a target and the square of its distance, if there is a point at all. -/
def nearest? (tree : NearestTree α) (target : Vec3 α) : Found α := search target .x tree none

end NearestTree

end RoadTraffic
