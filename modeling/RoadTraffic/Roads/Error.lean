import RoadTraffic.Decimal.Text
import RoadTraffic.Roads.Basic

/-!
# What can be wrong with a road graph

The causes for which a graph is refused, by the map itself, by the builder or when a point is
looked up by name, and the sentence that tells each of them.
-/

namespace RoadTraffic

/-- A defect of a road graph. -/
inductive MapError (α : Type) where
  | empty
  /-- Two points have this index. -/
  | duplicatePoint (id : PointId)
  /-- The point at this place of the list has another index. -/
  | sparsePoint (index : Nat) (id : PointId)
  /-- A link names a point that the graph does not have. -/
  | danglingLink (point target : PointId)
  /-- The next point of this one does not lead back to it. -/
  | brokenChain (id : PointId)
  /-- A junction is misplaced in the list or names a missing point. -/
  | badJunction (id : JunctionId)
  | badProbability (junction : JunctionId) (probability : α)
  /-- The point starts or ends a junction other than the one it should. -/
  | junctionConflict (id : PointId)
  | unknownSpline (name : String)
  | unknownPoint (name : String) (index : Nat)
  | badReference (reference : String)
  /-- The lane already goes on at this point. -/
  | alreadyConnected (id : PointId)
  | duplicateSpline (name : String)
  /-- A lane has fewer than two points. -/
  | shortSpline (name : String)
  deriving DecidableEq

/-- The sentence that tells a defect. -/
def MapError.message : MapError Float → String
  | .empty => "the traffic map contains no points"
  | .duplicatePoint id => "point id " ++ id.label ++ " appears more than once"
  | .sparsePoint index id =>
    "point at index " ++ toString index ++ " has id " ++ id.label
      ++ "; ids must be dense array indices"
  | .danglingLink point target =>
    "point " ++ point.label ++ " links to missing point " ++ target.label
  | .brokenChain id => "point " ++ id.label ++ " is not the previous point of its next point"
  | .badJunction id => "junction " ++ id.label ++ " refers to a missing point"
  | .badProbability junction probability =>
    "junction " ++ junction.label ++ " has probability " ++ Decimal.text probability
      ++ ", outside [0, 1]"
  | .junctionConflict id => "point " ++ id.label ++ " already starts or ends another junction"
  | .unknownSpline name => "spline `" ++ name ++ "` does not exist"
  | .unknownPoint name index => "spline `" ++ name ++ "` has no point " ++ toString index
  | .badReference reference => "`" ++ reference ++ "` is not a `<spline>@<index>` reference"
  | .alreadyConnected id => "point " ++ id.label ++ " is already connected"
  | .duplicateSpline name => "spline `" ++ name ++ "` is defined twice"
  | .shortSpline name => "spline `" ++ name ++ "` needs at least two points"

end RoadTraffic
