import RoadTraffic.Interval
import RoadTraffic.Json.Basic
import RoadTraffic.Text.Numeral
import RoadTraffic.Vec3

/-!
# Values in JSON documents

What kind of value a JSON value is. Whole numbers have neither a fraction nor an exponent; where a
number is asked for, any form of it will do.
-/

namespace RoadTraffic

namespace Json

/-- An object. -/
def asObject (j : Json) : Option Json :=
  match j with
  | obj _ => some j
  | _ => none

/-- A list. -/
def asList (j : Json) : Option (List Json) :=
  match j with
  | arr items => some items
  | _ => none

/-- A string. -/
def asString (j : Json) : Option String :=
  match j with
  | str s => some s
  | _ => none

/-- A boolean. -/
def asBool (j : Json) : Option Bool :=
  match j with
  | bool b => some b
  | _ => none

/-- A whole number. Minus zero is none. -/
def asInt (j : Json) : Option Int :=
  match j with
  | num text =>
    match text.toList with
    | '-' :: digits =>
      if isDigits digits && digits.any (· ≠ '0') then some (-(Text.digitsValue 0 digits : Int))
      else none
    | digits => if isDigits digits then some (Text.digitsValue 0 digits : Int) else none
  | _ => none

/-- A natural number below a limit. -/
def asNatBelow (limit : Nat) (j : Json) : Option Nat := do
  let n ← asInt j
  if 0 ≤ n ∧ n < limit then some n.toNat else none

/-- A natural number of 64 bits. -/
def asNat (j : Json) : Option Nat := asNatBelow (Nat.pow 2 64) j

/-- The exponent that a text of an exponent denotes. -/
def exponentValue (cs : List Char) : Int :=
  match cs with
  | '-' :: digits => -(Text.digitsValue 0 digits : Int)
  | '+' :: digits => Text.digitsValue 0 digits
  | digits => Text.digitsValue 0 digits

/-- The double nearest to the number that a text denotes. -/
def floatOfText (text : String) : Float :=
  let (isNegative, cs) := match text.toList with
    | '-' :: cs => (true, cs)
    | cs => (false, cs)
  let whole := cs.takeWhile Char.isDigit
  let rest := cs.drop whole.length
  let (places, rest) := match rest with
    | '.' :: rest => (rest.takeWhile Char.isDigit, rest.dropWhile Char.isDigit)
    | rest => ([], rest)
  let exponent := exponentValue (rest.drop 1) - (places.length : Int)
  let magnitude :=
    Float.ofScientific (Text.digitsValue 0 (whole ++ places)) (exponent < 0) exponent.natAbs
  if isNegative then -magnitude else magnitude

/-- A number. -/
def asNumber (j : Json) : Option Float :=
  match j with
  | num text => some (floatOfText text)
  | _ => none

/-- A number, or the name of one that is not finite. -/
def asFloat (j : Json) : Option Float :=
  match j with
  | str "inf" => some (1.0 / 0.0)
  | str "-inf" => some (-1.0 / 0.0)
  | str "NaN" => some (0.0 / 0.0)
  | j => asNumber j

/-- A vector. -/
def asVector (j : Json) : Option (Vec3 Float) := do
  match ← asList j with
  | [x, y, z] => return ⟨← asFloat x, ← asFloat y, ← asFloat z⟩
  | _ => none

/-- A list of values of one kind. -/
def asListOf {β : Type} (decode : Json → Option β) (j : Json) : Option (List β) := do
  (← asList j).mapM decode

/-- An interval. -/
def asInterval {β : Type} (decode : Json → Option β) (j : Json) : Option (Interval β) := do
  let j ← asObject j
  return ⟨← decode (j.get "min"), ← decode (j.get "max")⟩

/-- A value with a default for null. -/
def orDefault {β : Type} (decode : Json → Option β) (default : β) (j : Json) : Option β :=
  match j with
  | null => some default
  | j => decode j

/-- A value or null. -/
def optional {β : Type} (decode : Json → Option β) (j : Json) : Option (Option β) :=
  match j with
  | null => some none
  | j => (decode j).map some

/-- A field with a default if it is absent, but not if it is null. -/
def fieldOr {β : Type} (j : Json) (name : String) (decode : Json → Option β) (default : β) :
    Option β :=
  if j.has name then decode (j.get name) else some default

/-- A boolean that is false by default. -/
def asFlag (j : Json) : Option Bool := orDefault asBool false j

/-- An interval as an object. -/
def ofInterval {β : Type} (encode : β → Json) (i : Interval β) : Json :=
  obj [("min", encode i.min), ("max", encode i.max)]

/-- A vector as a list. -/
def ofVector (v : Vec3 Float) : Json := arr [ofFloat v.x, ofFloat v.y, ofFloat v.z]

end Json

end RoadTraffic
