import RoadTraffic.Proofs.Scalar.Rational
import RoadTraffic.Roads.Map

/-!
# Two lanes side by side

A small road to run things on, in rational numbers: a lane of two points, and a second lane that
begins beside the end of the first one, to its left.

The search tree of a map is built by sorting. Where the positions are in order along all axes
nothing is there to be sorted (`ofSites_of_ordered`), and so the tree of this road can be written
down: `sideBySide_wellFormed` says that the road is what its points make.
-/

namespace RoadTraffic

namespace NearestTree

variable {α : Type} [Scalar α]

/-- The tree over a list of positions that are taken as they come. -/
def halved : Nat → List (Vec3 α × PointId) → NearestTree α
  | 0, _ => empty
  | levels + 1, sites =>
    match sites.drop (sites.length / 2) with
    | [] => empty
    | (position, id) :: upper =>
      node position id (halved levels (sites.take (sites.length / 2))) (halved levels upper)

/-- Positions in order along an axis. -/
def OrderedAlong (sites : List (Vec3 α × PointId)) (axis : Axis) : Prop :=
  sites.Pairwise fun a b => Scalar.totalLe (axis.of a.1) (axis.of b.1) = true

theorem build_of_ordered {levels : Nat} {axis : Axis} {sites : List (Vec3 α × PointId)}
    (h : ∀ axis, OrderedAlong sites axis) : build levels axis sites = halved levels sites := by
  induction levels generalizing axis sites with
  | zero => rfl
  | succ levels ih =>
    have hsorted : sortAlong axis sites = sites := List.mergeSort_of_pairwise (h axis)
    unfold build halved
    rw [hsorted]
    dsimp only
    -- what is in order along all axes stays so in both halves
    have hlower : ∀ axis, OrderedAlong (sites.take (sites.length / 2)) axis :=
      fun axis => (h axis).sublist (List.take_sublist ..)
    rcases hdrop : sites.drop (sites.length / 2) with _ | ⟨⟨position, id⟩, upper⟩
    · rfl
    · have hupper : upper.Sublist sites :=
        (List.sublist_cons_self (position, id) upper).trans (hdrop ▸ List.drop_sublist ..)
      dsimp only
      rw [ih hlower, ih fun axis => (h axis).sublist hupper]

/-- Over positions that are in order along all axes the tree is built without sorting. -/
theorem ofSites_of_ordered {sites : List (Vec3 α × PointId)}
    (h : ∀ axis, OrderedAlong sites axis) : ofSites sites = halved sites.length sites :=
  build_of_ordered h

end NearestTree

/-- A point of the road, 100 m further on than the one before it. -/
private def sidePoint (index : Nat) (x z : Rat) (next previous left right : Option PointId) :
    RoadPoint Rat :=
  { RoadPoint.unlinked ⟨index⟩ ⟨x, 0, z⟩ with
    next, previous, left, right, length := if next.isSome then 100 else 0 }

/-- The points of the two lanes. -/
def sideBySidePoints : Array (RoadPoint Rat) :=
  #[sidePoint 0 0 0 (some ⟨1⟩) none none none,
    sidePoint 1 0 100 none (some ⟨0⟩) (some ⟨2⟩) none,
    sidePoint 2 3 100 (some ⟨3⟩) none none (some ⟨1⟩),
    sidePoint 3 3 200 none (some ⟨2⟩) none none]

/-- The road of the two lanes. -/
def sideBySide : RoadMap Rat where
  points := sideBySidePoints
  junctions := #[]
  splines := []
  tree := .halved 4 (sideBySidePoints.toList.map fun p => (p.position, p.id))

theorem sideBySide_wellFormed : RoadMap.ofParts sideBySidePoints #[] [] = .ok sideBySide := by
  have hcheck : Validation.check sideBySidePoints #[] [] = .ok () := by decide +kernel
  -- sorting cannot be evaluated, but here the sites are in order from the start
  have htree : NearestTree.ofSites (sideBySidePoints.toList.map fun p => (p.position, p.id)) =
      sideBySide.tree := by
    apply NearestTree.ofSites_of_ordered
    intro axis
    cases axis
    all_goals
      unfold NearestTree.OrderedAlong
      decide +kernel
  unfold RoadMap.ofParts
  rw [hcheck, htree]
  rfl

end RoadTraffic
