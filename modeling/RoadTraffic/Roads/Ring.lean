import RoadTraffic.Roads.Builder

/-!
# Shapes of roads

Sites along straight lines and around squares.
-/

namespace RoadTraffic

namespace Site

variable {α : Type} [Scalar α]

/-- A site on a level road. -/
def level (position : Vec3 α) : Site α := ⟨position, 0⟩

/-- A number of sites at equal steps from a first one. -/
def line (start step : Vec3 α) (count : Nat) : List (Site α) :=
  (List.range count).map fun i =>
    let t : α := Scalar.ofNat i
    .level ⟨start.x + step.x * t, start.y + step.y * t, start.z + step.z * t⟩

/-- The sites around a square lane that lies `inset` within a square of side `outer`, about
`spacing` apart, beginning at a corner and going round once. -/
def ring (outer spacing inset : α) : List (Site α) :=
  let side := outer - 2 * inset
  let perSide := Scalar.toNat (Nat.pow 2 64 - 1) (side / spacing)
  let gap := side / Scalar.ofNat perSide
  let corners : List (α × α × α × α) :=
    [ (inset, inset, 1, 0), (inset + side, inset, 0, 1), (inset + side, inset + side, -1, 0),
      (inset, inset + side, 0, -1) ]
  corners.flatMap fun (x, z, dx, dz) =>
    (List.range perSide).map fun i =>
      let d := gap * Scalar.ofNat i
      .level ⟨x + dx * d, 0, z + dz * d⟩

end Site

end RoadTraffic
