import RoadTraffic.Random.ChaCha
import RoadTraffic.Tour.Run

/-!
# The command line

Runs a tour and prints its journal.
-/

namespace RoadTraffic.Main

/-- What is printed for a command line that does not lead to a tour. -/
def usageText : Tour.Usage → String
  | .help | .unknownArgument | .badValue | .missingValue | .repeated | .unneededValue =>
    "Usage: traffic-demo [-v] [--seconds N] [--players N] [--slots N] [--seed N]"
  | .version => "traffic-demo 0.1.0"

/-- Whether a command line without a tour is in order. -/
def isRequest : Tour.Usage → Bool
  | .help | .version => true
  | _ => false

/-- Prints the notices of a journal. -/
def printJournal (journal : Journal Float) (level : Level) : IO Unit := do
  for notice in journal.upTo level do
    IO.eprintln (notice.level.name ++ " " ++ notice.message)

/-- The sentence that tells why there was no tour. -/
def failureText : Except Fault (Except (Tour.TourError Float) (Tour.State Float ChaCha)) →
    Option String
  | .error _ => some "the tour cannot go on"
  | .ok (.error (.map e)) => some e.message
  | .ok (.error (.settings e)) => some e.message
  | .ok (.ok _) => none

/-- Runs a tour. -/
def runTour (options : Tour.Options) : IO UInt32 := do
  let (outcome, journal) := (Tour.run options : Logged Float _) #[]
  printJournal journal (if options.verbose then .debug else .info)
  match failureText outcome with
  | none => return 0
  | some text =>
    IO.eprintln ("ERROR " ++ text)
    return 1

end RoadTraffic.Main

/-- Runs the tour that the command line describes. -/
def main (arguments : List String) : IO UInt32 := do
  match RoadTraffic.Tour.Options.read arguments with
  | .ok options => RoadTraffic.Main.runTour options
  | .error usage =>
    if RoadTraffic.Main.isRequest usage then
      IO.println (RoadTraffic.Main.usageText usage)
      return 0
    else
      IO.eprintln (RoadTraffic.Main.usageText usage)
      return 2
