import DiceSum.Text.WholeNumber

/-!
# Settings

Settings come from variables of the environment. The names of variables are read without regard to the
case of their letters, values are taken as they are, and other variables mean nothing. Only the seed
can be wrong: it has to be a whole number.
-/

namespace DiceSum

/-- What is set outside of a command. -/
structure Settings where
  /-- The name of the level from which on events are shown. -/
  logLevel : Text := "WARNING".toList
  /-- The seed of the source, or none for the system's source. -/
  seed : Option Int := none
  /-- The name under which a service is known. -/
  serverName : Text := "dice-notation".toList

namespace Settings

/-- The value of a variable whose name is given in small letters. Of several variables whose names
differ only in case, the last one counts. -/
def setting? (environment : List (Text × Text)) (name : Text) : Option Text :=
  environment.reverse.findSome? fun (key, value) =>
    if key.map Char.toLower = name then some value else none

/-- The seed that a variable sets; the inner value is missing if none is set, and all is missing if
the variable holds no integer. -/
def seedOf? : Option Text → Option (Option Int)
  | none => some none
  | some value => (WholeNumber.ofText? value).map some

/-- The settings of an environment, or nothing if the seed is not an integer. -/
def ofEnvironment? (environment : List (Text × Text)) : Option Settings := do
  let defaults : Settings := {}
  let seed ← seedOf? (setting? environment "dice_rng_seed".toList)
  return {
    logLevel := (setting? environment "dice_log_level".toList).getD defaults.logLevel
    seed
    serverName := (setting? environment "dice_server_name".toList).getD defaults.serverName }

end Settings

end DiceSum
