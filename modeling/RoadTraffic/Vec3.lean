import RoadTraffic.Scalar

/-!
# Vectors in space

Positions and directions are triples of scalars; `y` points up. Sums of products are always taken
in the order `(x + y) + z`, so that a result in doubles is a definite number.
-/

namespace RoadTraffic

/-- A position, a displacement or a velocity. -/
structure Vec3 (α : Type) where
  x : α
  y : α
  z : α
  deriving DecidableEq, Inhabited

namespace Vec3

variable {α : Type} [Scalar α]

/-- The vector without length. -/
def zero : Vec3 α := ⟨0, 0, 0⟩

instance : Add (Vec3 α) := ⟨fun a b => ⟨a.x + b.x, a.y + b.y, a.z + b.z⟩⟩
instance : Sub (Vec3 α) := ⟨fun a b => ⟨a.x - b.x, a.y - b.y, a.z - b.z⟩⟩
instance : Neg (Vec3 α) := ⟨fun a => ⟨-a.x, -a.y, -a.z⟩⟩

/-- The vector stretched by a factor. -/
def scale (a : Vec3 α) (s : α) : Vec3 α := ⟨a.x * s, a.y * s, a.z * s⟩

/-- The scalar product. -/
def dot (a b : Vec3 α) : α := a.x * b.x + a.y * b.y + a.z * b.z

/-- The vector product. -/
def cross (a b : Vec3 α) : Vec3 α :=
  ⟨a.y * b.z - a.z * b.y, a.z * b.x - a.x * b.z, a.x * b.y - a.y * b.x⟩

/-- The square of the length. -/
def lengthSquared (a : Vec3 α) : α := a.dot a

/-- The length. -/
def length (a : Vec3 α) : α := Scalar.sqrt a.lengthSquared

/-- The square of the distance between two positions. -/
def distanceSquared (a b : Vec3 α) : α := (b - a).lengthSquared

/-- The distance between two positions. -/
def distance (a b : Vec3 α) : α := Scalar.sqrt (a.distanceSquared b)

/-- The unit vector of the same direction, or zero for a vector too short to have one. -/
def direction (a : Vec3 α) : Vec3 α :=
  let l := a.length
  if Scalar.tiny < l then ⟨a.x / l, a.y / l, a.z / l⟩ else zero

/-- The vector without its vertical component. -/
def flat (a : Vec3 α) : Vec3 α := ⟨a.x, 0, a.z⟩

/-- The horizontal unit vector a quarter turn to the left, or zero for a vertical vector. -/
def leftward (a : Vec3 α) : Vec3 α := direction ⟨a.z, 0, -a.x⟩

end Vec3

end RoadTraffic
