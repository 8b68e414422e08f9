import RoadTraffic.Roads.Error
import RoadTraffic.Text.Blank
import RoadTraffic.Text.Numeral

/-!
# References to points

A point is named `<spline>@<index>`. The last `@` divides the name from the index, so that a name
may contain the sign itself, and blanks around either part do not count.
-/

namespace RoadTraffic

/-- The name of a lane and the place of a point on it. -/
structure Reference where
  name : String
  index : Nat
  deriving DecidableEq, Repr

namespace Reference

/-- The parts of a text before and after its last `@`. The text is read from its end, and
`behind` holds the characters read so far in their order. -/
def splitReversed : List Char → List Char → Option (List Char × List Char)
  | _, [] => none
  | behind, c :: cs => if c = '@' then some (cs.reverse, behind) else splitReversed (c :: behind) cs

/-- The parts of a text before and after its last `@`. -/
def split? (cs : List Char) : Option (List Char × List Char) := splitReversed [] cs.reverse

/-- Reads a reference. -/
def read {α : Type} (s : String) : Except (MapError α) Reference :=
  match split? s.toList with
  | none => .error (.badReference s)
  | some (name, index) =>
    match Text.numeral? (Text.trim index) with
    | none => .error (.badReference s)
    | some index => .ok ⟨String.ofList (Text.trim name), index⟩

/-- The point that a reference names among some splines. -/
def find {α : Type} (splines : List Spline) (r : Reference) : Except (MapError α) PointId :=
  match splines.find? (·.name == r.name) with
  | none => .error (.unknownSpline r.name)
  | some spline =>
    match spline.points[r.index]? with
    | none => .error (.unknownPoint r.name r.index)
    | some id => .ok id

/-- The point that a text names among some splines. -/
def resolve {α : Type} (splines : List Spline) (s : String) : Except (MapError α) PointId := do
  find splines (← read s)

end Reference

end RoadTraffic
