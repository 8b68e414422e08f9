import RoadTraffic.Decimal.Text

/-!
# Fixed places

A double written with a given number of digits after the point. The exact binary value is rounded,
and a tie goes to the even neighbour.
-/

namespace RoadTraffic

namespace Decimal

/-- The whole number nearest to `num / den`, of two equally near ones the even one. -/
def roundDiv (num den : Nat) : Nat :=
  let below := num / den
  let excess := 2 * (num % den)
  if excess < den then below
  else if den < excess then below + 1
  else below + below % 2

/-- A double with `places` digits after the point. -/
def fixed (places : Nat) (x : Float) : String :=
  if x.isNaN then "NaN"
  else
    let magnitude :=
      if x.isInf then "inf"
      else
        let (m, q) := Double.significand x
        let scaled := roundDiv (m * Nat.pow 2 q.toNat * Nat.pow 10 places) (Nat.pow 2 (-q).toNat)
        positional ⟨scaled, -(places : Int)⟩
    if x.toBits >>> 63 == 1 then "-" ++ magnitude else magnitude

/-- A text filled up with blanks on the left to a width. -/
def padLeft (width : Nat) (s : String) : String :=
  String.ofList (List.replicate (width - s.length) ' ') ++ s

end Decimal

end RoadTraffic
