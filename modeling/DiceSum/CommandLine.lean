import DiceSum.CommandLine.Options
import DiceSum.Mean.Shortest
import DiceSum.Report
import DiceSum.Settings
import DiceSum.Text.UpperCase

/-!
# The command

A command rolls the sum that its arguments write, joined by spaces, and prints the total and, if asked
to, the mean. A wrong use and a refused text end it with code 2 and a message. The level of detail
decides which events are shown; it never changes what is printed.
-/

namespace DiceSum

/-- What a command leaves behind. -/
structure Outcome where
  /-- The code that the command ends with. -/
  exit : Nat
  /-- The text on the standard output. -/
  output : Text
  /-- The events that are shown, before the complaint. -/
  events : List Event
  /-- The message about what is wrong. -/
  complaint : Text

/-- The text on the standard error output: every event with a time in front, and the complaint. -/
def Outcome.errorOutput (outcome : Outcome) (time : Text) : Text :=
  outcome.events.flatMap (fun event => time ++ ' ' :: event.record ++ ['\n']) ++ outcome.complaint

/-- Levels of detail, with the weight that an event needs to be shown. -/
def thresholds : List (Text × Nat) :=
  [("CRITICAL".toList, 50), ("FATAL".toList, 50), ("ERROR".toList, 40), ("WARN".toList, 30),
   ("WARNING".toList, 30), ("INFO".toList, 20), ("DEBUG".toList, 10), ("NOTSET".toList, 0)]

/-- The weight that an event needs to be shown. Being verbose overrides the settings, which name a
level in letters of any case. -/
def threshold (settings : Settings) (verbose : Bool) : Except Failure Nat :=
  if verbose then .ok Level.debug.weight
  else
    match thresholds.lookup (upperCase settings.logLevel) with
    | some weight => .ok weight
    | none => .error (.unknownLevel (upperCase settings.logLevel))

/-- The summary of the arguments. -/
def usage : Text :=
  "usage: dice-notation [-h] [--avg] [--seed SEED] [-v] dice [dice ...]\n".toList

/-- The text that is printed if help is asked for. -/
def help : Text :=
  usage ++
    ("\nRoll dice notation like '2d20 + 5' or '-d8 - 3'.\n" ++
      "\npositional arguments:\n" ++
      "  dice           the dice rolls to calculate (like '2d4' or 'd20+5')\n" ++
      "\noptions:\n" ++
      "  -h, --help     show this help message and exit\n" ++
      "  --avg          also calculate the expected average value\n" ++
      "  --seed SEED    seed the random source for reproducible rolls\n" ++
      "  -v, --verbose  enable debug logging\n").toList

/-- What a command leaves behind if its arguments lead to no roll. -/
def Stop.outcome : Stop → Outcome
  | .help => { exit := 0, output := DiceSum.help, events := [], complaint := [] }
  | .misuse wrong =>
    { exit := 2, output := [], events := []
      complaint := usage ++ "dice-notation: error: ".toList ++ wrong.message ++ ['\n'] }

/-- The lines that a roll prints. -/
def printed (terms : List Term) (total : Int) (mean : Option Mean) : Text :=
  let expression := render terms
  expression ++ " = ".toList ++ Decimal.ofInt total ++ ['\n'] ++
    match mean with
    | none => []
    | some mean => "average of ".toList ++ expression ++ " = ".toList ++ mean.text ++ ['\n']

/-- Rolls a text and prints. A source is made only if the text is not refused, and it is in its first
state. -/
def rollAndPrint (system : Source) (seed : Seed) (text : Text) (withMean : Bool)
    (events : List Event) : Except Failure Outcome :=
  match readSome text with
  | .error refusal => .ok { exit := 2, output := [], events, complaint := refusal.message ++ ['\n'] }
  | .ok terms => do
    let source ← Source.ofSeed system seed
    let rolls ← ((roll Source.draw terms).run.run source).1
    let mean ← meanIf withMean terms
    return { exit := 0, output := printed terms (total rolls) mean, events, complaint := [] }

/-- Carries out a command, with the system's source at hand. -/
def command (settings : Settings) (system : Source) (arguments : List Text) :
    Except Failure Outcome :=
  match Options.read (Seed.ofOption settings.seed) arguments with
  | .error stop => .ok stop.outcome
  | .ok (options, words) => do
    let least ← threshold settings options.verbose
    let text := joinWith [' '] words
    let events := [.rolling text, .ofReading text (read text)]
    rollAndPrint system options.seed text options.average
      (events.filter (least ≤ ·.level.weight))

end DiceSum
