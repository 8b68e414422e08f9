import RoadTraffic.Text.Numeral

/-!
# Options of a tour

The command line. Options may be written `--name value` or `--name=value`, one-letter flags may be
put together, and nothing may be given twice. A value that is still awaited is settled when the
next option comes or the line ends; something unknown is refused before that.
-/

namespace RoadTraffic

namespace Tour

/-- What a tour is told on the command line. -/
structure Options where
  verbose : Bool
  seconds : Nat
  players : Nat
  slots : Nat
  seed : Option Nat
  deriving DecidableEq, Repr

/-- Why a command line does not lead to a tour. -/
inductive Usage where
  | unknownArgument
  /-- A value is not a number of at most 64 bits. -/
  | badValue
  | missingValue
  /-- An option is given twice. -/
  | repeated
  /-- A flag is given a value. -/
  | unneededValue
  | help
  | version
  deriving DecidableEq, Repr

/-- The options with a value. -/
inductive Key where
  | seconds
  | players
  | slots
  | seed
  deriving DecidableEq, Repr

/-- The options without a value. -/
inductive Switch where
  | verbose
  | help
  | version
  deriving DecidableEq, Repr

/-- An option value that was given on the command line. -/
abbrev Given := List (Key × Nat)

/-- What was read of a command line. -/
structure Reading where
  verbose : Bool
  given : Given
  /-- An option whose value is awaited or not yet settled. -/
  pending : Option (Key × Option String)
  deriving DecidableEq, Repr

/-- The option of a long name. -/
def longName (name : String) : Option (Key ⊕ Switch) :=
  match name with
  | "seconds" => some (.inl .seconds)
  | "players" => some (.inl .players)
  | "slots" => some (.inl .slots)
  | "seed" => some (.inl .seed)
  | "verbose" => some (.inr .verbose)
  | "help" => some (.inr .help)
  | "version" => some (.inr .version)
  | _ => none

/-- The option of a letter. -/
def shortName (letter : Char) : Option Switch :=
  match letter with
  | 'v' => some .verbose
  | 'h' => some .help
  | 'V' => some .version
  | _ => none

namespace Reading

/-- Nothing read. -/
def empty : Reading := ⟨false, [], none⟩

/-- Takes the value of an option. -/
def assign (key : Key) (value : String) (r : Reading) : Except Usage Reading :=
  if (r.given.lookup key).isSome then .error .repeated
  else
    match Text.numeral? value.toList with
    | some n => .ok { r with given := r.given ++ [(key, n)] }
    | none => .error .badValue

/-- Settles the pending option. -/
def settle (r : Reading) : Except Usage Reading :=
  match r.pending with
  | none => .ok r
  | some (_, none) => .error .missingValue
  | some (key, some value) => { r with pending := none }.assign key value

/-- Takes an option without a value. -/
def flip (switch : Switch) (r : Reading) : Except Usage Reading := do
  let r ← r.settle
  match switch with
  | .help => throw .help
  | .version => throw .version
  | .verbose => if r.verbose then throw .repeated else return { r with verbose := true }

/-- Takes one-letter flags. -/
def letters : List Char → Reading → Except Usage Reading
  | [], r => .ok r
  | c :: cs, r =>
    match shortName c with
    | none => .error .unknownArgument
    | some switch =>
      match r.flip switch with
      | .ok r => letters cs r
      | .error e => .error e

/-- Takes a long option with the value behind its equals sign, if there is one. -/
def long (name : String) (value : Option String) (r : Reading) : Except Usage Reading :=
  match longName name, value with
  | none, _ => .error .unknownArgument
  | some (.inr _), some _ => .error .unneededValue
  | some (.inr switch), none => r.flip switch
  | some (.inl key), some value => do (← r.settle).assign key value
  | some (.inl key), none => do return { (← r.settle) with pending := some (key, none) }

/-- Takes an argument that is no option: it is the awaited value or out of place. -/
def plain (argument : String) (r : Reading) : Except Usage Reading :=
  match r.pending with
  | some (key, none) => .ok { r with pending := some (key, some argument) }
  | _ => .error .unknownArgument

/-- The parts of a text before and after its first equals sign. -/
def splitValue (cs : List Char) : String × Option String :=
  let name := cs.takeWhile (· ≠ '=')
  match cs.drop name.length with
  | [] => (String.ofList name, none)
  | _ :: value => (String.ofList name, some (String.ofList value))

/-- Takes one argument. -/
def take (argument : String) (r : Reading) : Except Usage Reading :=
  match argument.toList with
  | '-' :: '-' :: name =>
    let (name, value) := splitValue name
    r.long name value
  | '-' :: c :: cs => letters (c :: cs) r
  | _ => r.plain argument

/-- Takes all arguments. Behind a bare `--` nothing may follow. -/
def takeAll : List String → Reading → Except Usage Reading
  | [], r => r.settle
  | "--" :: rest, r => if rest.isEmpty then r.settle else .error .unknownArgument
  | argument :: rest, r =>
    match r.take argument with
    | .ok r => takeAll rest r
    | .error e => .error e

/-- The options that were read, with the usual values for the others. -/
def options (r : Reading) : Options where
  verbose := r.verbose
  seconds := (r.given.lookup .seconds).getD 120
  players := (r.given.lookup .players).getD 2
  slots := (r.given.lookup .slots).getD 8
  seed := r.given.lookup .seed

end Reading

/-- Reads a command line. -/
def Options.read (arguments : List String) : Except Usage Options :=
  (Reading.empty.takeAll arguments).map Reading.options

end Tour

end RoadTraffic
