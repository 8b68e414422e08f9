/-!
# Numerals

Whole numbers of at most 64 bits in decimal digits, with an optional plus sign.
-/

namespace RoadTraffic

namespace Text

/-- The value of a list of decimal digits after the digits that stand for `n`. -/
def digitsValue (n : Nat) (cs : List Char) : Nat :=
  cs.foldl (fun n c => 10 * n + (c.toNat - '0'.toNat)) n

/-- The number that a list of characters denotes, if it is a numeral below `2 ^ 64`. -/
def numeral? (cs : List Char) : Option Nat :=
  let digits := match cs with
    | '+' :: rest => rest
    | _ => cs
  if digits ≠ [] ∧ digits.all Char.isDigit ∧ digitsValue 0 digits < Nat.pow 2 64 then
    some (digitsValue 0 digits)
  else none

end Text

end RoadTraffic
