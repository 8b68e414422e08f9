import RoadTraffic.Decimal.Shortest

/-!
# Texts of doubles

Two ways to write the shortest decimal of a double. The plain text is always positional: a whole
number has neither point nor exponent. The exact text tells a double from a whole number, `1.0`
instead of `1`, and leaves very large and very small numbers to an exponent.
-/

namespace RoadTraffic

namespace Decimal

/-- A text of zeros. -/
def zeros (n : Nat) : String := String.ofList (List.replicate n '0')

/-- The decimal without an exponent. -/
def positional (d : Decimal) : String :=
  let digits := toString d.digits
  if 0 ≤ d.exponent then digits ++ zeros d.exponent.toNat
  else
    let places := (-d.exponent).toNat
    let padded := (zeros (places + 1 - digits.length) ++ digits).toList
    let whole := padded.length - places
    String.ofList (padded.take whole) ++ "." ++ String.ofList (padded.drop whole)

/-- The decimal with one digit before the point and an exponent. -/
def scientific (d : Decimal) : String :=
  let digits := (toString d.digits).toList
  let exponent := d.exponent + (digits.length - 1 : Nat)
  let rest := if digits.length ≤ 1 then "" else "." ++ String.ofList (digits.drop 1)
  String.ofList (digits.take 1) ++ rest ++ "e" ++ toString exponent

/-- The text of a double whose magnitude is written by `body`. -/
def signed (x : Float) (zero : String) (body : Decimal → String) : String :=
  if x.isNaN then "NaN"
  else
    let magnitude :=
      if x.isInf then "inf"
      else
        let (m, q) := Double.significand x
        if m = 0 then zero else body (shortest m q)
    if x.toBits >>> 63 == 1 then "-" ++ magnitude else magnitude

/-- The plain text of a double. -/
def text (x : Float) : String := signed x "0" positional

/-- The exact text of a double: positional from `0.00001` on and below `10 ^ 16`. -/
def exactText (x : Float) : String :=
  signed x "0.0" fun d =>
    let leading := d.exponent + ((toString d.digits).length - 1 : Nat)
    if leading < -5 ∨ 16 ≤ leading then scientific d
    else if 0 ≤ d.exponent then positional d ++ ".0"
    else positional d

end Decimal

end RoadTraffic
