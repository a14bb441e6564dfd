import DiceSum.CommandLine
import Std.Time

/-!
# The program

The outer layer: it takes the settings from the environment and randomness from the machine, carries out
the command, and prints what the command leaves behind.
-/

namespace DiceSum

/-- The variables of the environment that hold settings. -/
def readEnvironment : IO (List (Text × Text)) := do
  let names := ["DICE_LOG_LEVEL", "DICE_RNG_SEED", "DICE_SERVER_NAME"]
  let values ← names.mapM fun name => do
    return (← IO.getEnv name).map fun value => (name.toList, value.toList)
  return values.filterMap id

/-- A source whose seed comes from the machine. -/
def systemSource : IO Source := do
  let bytes ← IO.getRandomBytes 32
  return .system (Twister.ofSeed (bytes.foldl (fun n byte => 256 * n + byte.toNat) 0))

/-- The time on the clock, for the log. -/
def clockTime : IO Text := do
  let now ← Std.Time.PlainDateTime.now
  return (now.format "uuuu-MM-dd HH:mm:ss,SSS").toList

/-- Carries out a command and prints. -/
def runCommand (arguments : List String) : IO UInt32 := do
  let stdout ← IO.getStdout
  let stderr ← IO.getStderr
  match Settings.ofEnvironment? (← readEnvironment) with
  | none =>
    stderr.putStrLn "DICE_RNG_SEED: not an integer"
    return 1
  | some settings =>
    match command settings (← systemSource) (arguments.map String.toList) with
    | .error failure =>
      stderr.putStrLn (String.ofList failure.message)
      return 1
    | .ok outcome =>
      stderr.putStr (String.ofList (outcome.errorOutput (← clockTime)))
      stdout.putStr (String.ofList outcome.output)
      return outcome.exit.toUInt32

end DiceSum

/-- The entry point. -/
def main (arguments : List String) : IO UInt32 :=
  DiceSum.runCommand arguments
