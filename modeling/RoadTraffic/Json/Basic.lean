import RoadTraffic.Decimal.Text

/-!
# JSON documents

Values, and their text. A number is kept as it is written, so that `1` and `1.0` are told apart.
The fields of an object are written in the order of their names, without blanks.
-/

namespace RoadTraffic

/-- A JSON value. -/
inductive Json where
  | null
  | bool (b : Bool)
  | num (text : String)
  | str (s : String)
  | arr (items : List Json)
  | obj (fields : List (String × Json))
  deriving Inhabited

namespace Json

/-- A hexadecimal digit. -/
def hexChar (n : Nat) : Char := "0123456789abcdef".toList.getD n '0'

/-- A character within a string. -/
def escape (c : Char) : String :=
  if c = '"' then "\\\""
  else if c = '\\' then "\\\\"
  else if c.toNat = 8 then "\\b"
  else if c.toNat = 12 then "\\f"
  else if c = '\n' then "\\n"
  else if c = '\r' then "\\r"
  else if c = '\t' then "\\t"
  else if c.toNat < 32 then
    "\\u00" ++ String.ofList [hexChar (c.toNat / 16), hexChar (c.toNat % 16)]
  else c.toString

/-- A string in quotes. -/
def quote (s : String) : String := "\"" ++ String.join (s.toList.map escape) ++ "\""

/-- An object of fields whose values are texts. -/
def objectText (fields : List (String × String)) : String :=
  let sorted := fields.mergeSort fun a b => ¬ b.1 < a.1
  "\x7b" ++ ",".intercalate (sorted.map fun (name, text) => quote name ++ ":" ++ text) ++ "\x7d"

mutual

/-- The text of a value. -/
def text : Json → String
  | null => "null"
  | bool b => if b then "true" else "false"
  | num t => t
  | str s => quote s
  | arr items => "[" ++ ",".intercalate (itemTexts items) ++ "]"
  | obj fields => objectText (fieldTexts fields)

/-- The texts of values. -/
def itemTexts : List Json → List String
  | [] => []
  | item :: rest => item.text :: itemTexts rest

/-- The texts of the values of fields. -/
def fieldTexts : List (String × Json) → List (String × String)
  | [] => []
  | (name, value) :: rest => (name, value.text) :: fieldTexts rest

end

/-- Whether a text is a sequence of digits. -/
def isDigits (cs : List Char) : Bool := !cs.isEmpty && cs.all Char.isDigit

/-- A natural number. -/
def ofNat (n : Nat) : Json := num (toString n)

/-- A double. Zero has no sign, and what is not finite is named by a string. -/
def ofFloat (x : Float) : Json :=
  if x == 0 then num "0"
  else if x.isNaN || x.isInf then str (Decimal.text x)
  else num (Decimal.text x)

/-- A value or null. -/
def ofOption {β : Type} (encode : β → Json) (b : Option β) : Json := (b.map encode).getD null

/-- A field of an object; an absent one is null. -/
def get (j : Json) (name : String) : Json :=
  match j with
  | obj fields => (fields.lookup name).getD null
  | _ => null

/-- Whether an object has a field. -/
def has (j : Json) (name : String) : Bool :=
  match j with
  | obj fields => (fields.lookup name).isSome
  | _ => false

/-- The value unless it is null. -/
def given (j : Json) : Option Json :=
  match j with
  | null => none
  | j => some j

end Json

end RoadTraffic
