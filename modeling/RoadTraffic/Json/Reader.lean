import RoadTraffic.Json.Basic

/-!
# Reading JSON

A reader of documents. Every call reads one character at least before the next one, so that twice
the number of characters bounds the depth of the calls.
-/

namespace RoadTraffic

namespace Json

/-- Drops the blanks of JSON. -/
def skip (cs : List Char) : List Char :=
  cs.dropWhile fun c => c == ' ' || c == '\t' || c == '\n' || c == '\r'

/-- The value of a hexadecimal digit. -/
def hexDigit (c : Char) : Option Nat :=
  if '0' ≤ c ∧ c ≤ '9' then some (c.toNat - '0'.toNat)
  else if 'a' ≤ c ∧ c ≤ 'f' then some (c.toNat - 'a'.toNat + 10)
  else if 'A' ≤ c ∧ c ≤ 'F' then some (c.toNat - 'A'.toNat + 10)
  else none

/-- The number of four hexadecimal digits. -/
def hexNumber (a b c d : Char) : Option Nat := do
  return ((← hexDigit a) * 16 + (← hexDigit b)) * 256 + (← hexDigit c) * 16 + (← hexDigit d)

/-- The character of an escape letter. -/
def unescape (c : Char) : Option Char :=
  match c with
  | '"' => some '"'
  | '\\' => some '\\'
  | '/' => some '/'
  | 'b' => some (Char.ofNat 8)
  | 'f' => some (Char.ofNat 12)
  | 'n' => some '\n'
  | 'r' => some '\r'
  | 't' => some '\t'
  | _ => none

/-- What a number of four digits means after an open first half of a pair: a character, or the
first half of a pair. -/
def joinHalves (half : Option Nat) (n : Nat) : Option (Option Char × Option Nat) :=
  let isFirst := 0xD800 ≤ n ∧ n < 0xDC00
  let isSecond := 0xDC00 ≤ n ∧ n < 0xE000
  match half with
  | none =>
    if isFirst then some (none, some n)
    else if isSecond then none
    else some (some (Char.ofNat n), none)
  | some first =>
    if isSecond then
      some (some (Char.ofNat (0x10000 + (first - 0xD800) * 0x400 + (n - 0xDC00))), none)
    else none

/-- The characters of a string up to its closing quote, after the characters `acc`, which are
reversed, and possibly the first half of a pair. -/
def readChars (acc : List Char) (half : Option Nat) : List Char → Option (String × List Char)
  | [] => none
  | '\\' :: 'u' :: a :: b :: c :: d :: rest =>
    match (hexNumber a b c d).bind (joinHalves half) with
    | some (some ch, stillOpen) => readChars (ch :: acc) stillOpen rest
    | some (none, stillOpen) => readChars acc stillOpen rest
    | none => none
  | '\\' :: c :: rest =>
    match half, unescape c with
    | none, some ch => readChars (ch :: acc) none rest
    | _, _ => none
  | c :: rest =>
    if half.isSome || c.toNat < 32 then none
    else if c = '"' then some (String.ofList acc.reverse, rest)
    else readChars (c :: acc) none rest

/-- Whether a character belongs to a number. -/
def isNumeric (c : Char) : Bool :=
  c.isDigit || c == '-' || c == '+' || c == '.' || c == 'e' || c == 'E'

/-- Whether a text is the exponent of a number with its letter, or nothing. -/
def isExponent : List Char → Bool
  | [] => true
  | e :: sign :: digits =>
    (e == 'e' || e == 'E') &&
      if sign == '+' || sign == '-' then isDigits digits else isDigits (sign :: digits)
  | [_] => false

/-- Whether a text is what follows the whole part of a number. -/
def isFraction (cs : List Char) : Bool :=
  match cs with
  | '.' :: rest =>
    isDigits (rest.takeWhile Char.isDigit) && isExponent (rest.dropWhile Char.isDigit)
  | _ => isExponent cs

/-- Whether a text is a number: a whole part without idle zeros, which may be negative, and then
possibly places and an exponent. -/
def isNumber (cs : List Char) : Bool :=
  let cs := match cs with
    | '-' :: rest => rest
    | _ => cs
  let whole := cs.takeWhile Char.isDigit
  isDigits whole && (whole.length == 1 || whole.head? != some '0') &&
    isFraction (cs.drop whole.length)

mutual

/-- Reads a value. -/
def readValue : Nat → List Char → Option (Json × List Char)
  | 0, _ => none
  | depth + 1, cs =>
    match skip cs with
    | 'n' :: 'u' :: 'l' :: 'l' :: rest => some (null, rest)
    | 't' :: 'r' :: 'u' :: 'e' :: rest => some (bool true, rest)
    | 'f' :: 'a' :: 'l' :: 's' :: 'e' :: rest => some (bool false, rest)
    | '"' :: rest => (readChars [] none rest).map fun (s, rest) => (str s, rest)
    | '[' :: rest =>
      match skip rest with
      | ']' :: rest => some (arr [], rest)
      | rest => readItems depth [] rest
    | '{' :: rest =>
      match skip rest with
      | '}' :: rest => some (obj [], rest)
      | rest => readFields depth [] rest
    | rest =>
      let text := rest.takeWhile isNumeric
      if isNumber text then some (num (String.ofList text), rest.drop text.length) else none

/-- Reads the rest of a list after the items `acc`, which are reversed. -/
def readItems : Nat → List Json → List Char → Option (Json × List Char)
  | 0, _, _ => none
  | depth + 1, acc, cs =>
    match readValue depth cs with
    | none => none
    | some (item, rest) =>
      match skip rest with
      | ',' :: rest => readItems depth (item :: acc) rest
      | ']' :: rest => some (arr (item :: acc).reverse, rest)
      | _ => none

/-- Reads the rest of an object after the fields `acc`. The last of several fields of one name
counts, and therefore later fields come first. -/
def readFields : Nat → List (String × Json) → List Char → Option (Json × List Char)
  | 0, _, _ => none
  | depth + 1, acc, cs =>
    match skip cs with
    | '"' :: rest =>
      match readChars [] none rest with
      | none => none
      | some (name, rest) =>
        match skip rest with
        | ':' :: rest =>
          match readValue depth rest with
          | none => none
          | some (value, rest) =>
            match skip rest with
            | ',' :: rest => readFields depth ((name, value) :: acc) rest
            | '}' :: rest => some (obj ((name, value) :: acc), rest)
            | _ => none
        | _ => none
    | _ => none

end

/-- Reads a document. -/
def read (s : String) : Option Json :=
  let cs := s.toList
  match readValue (2 * cs.length + 1) cs with
  | some (value, rest) => if (skip rest).isEmpty then some value else none
  | none => none

end Json

end RoadTraffic
