import DiceSum.CommandLine.Arguments
import DiceSum.Source.Seed

/-!
# What the arguments ask for

Options are collected from the classed arguments. While words follow one another they belong to one
run; an option ends the run. `Options.collect` carries the run that is open.

The rules are those of option parsing in the releases 3.11.0 to 3.11.8. Later patch releases differ from
them in corners: in a value of `--` (`Options.applySeed`) and in letters attached to a short spelling, such
as `-hx` (`Options.cluster`).
-/

namespace DiceSum

/-- What the arguments have asked for so far. -/
structure Options where
  average : Bool
  verbose : Bool
  seed : Seed
  /-- The words of the sum, once a run of words has been taken. -/
  words : Option (List Text)
  /-- Arguments that have no meaning, in order. -/
  leftOver : List Text

/-- Why arguments lead to no roll. -/
inductive Stop where
  | help
  | misuse (misuse : Misuse)
deriving DecidableEq

namespace Options

/-- Nothing asked for, and a seed from the settings. -/
def start (seed : Seed) : Options where
  average := false
  verbose := false
  seed
  words := none
  leftOver := []

/-- Ends a run of words. The first run becomes the sum, unless it is a lone `--`. -/
def takeRun (options : Options) (run : List Text) : Options :=
  let words := run.erase "--".toList
  if words ≠ [] ∧ options.words = none then { options with words := some words }
  else { options with leftOver := options.leftOver ++ run }

/-- Acts on an option without a value. -/
def apply (options : Options) : Flag → Except Stop Options
  | .help => .error .help
  | .average => .ok { options with average := true }
  | .verbose => .ok { options with verbose := true }
  | .seed => .error (.misuse .seedMissing)

/-- Takes over a seed. A value of `--`, as in `--seed=--`, is dropped as if it separated arguments, and
leaves nothing in the seed. This is the rule up to release 3.11.8. -/
def applySeed (options : Options) (value : Text) : Except Stop Options :=
  if value = "--".toList then .ok { options with seed := .blank }
  else
    match Numeral.integer? value with
    | some n => .ok { options with seed := .number n }
    | none => .error (.misuse (.seedInvalid value))

/-- The options in one argument that starts with a short spelling: what is attached has to be the
letters of further short spellings. By the rule up to release 3.11.8, none of them is acted on before all
letters are known, so that `-hx` is a wrong use and not a request for help. -/
def cluster (flag : Flag) : Text → Except Misuse (List Flag)
  | [] => .error (.attached flag [])
  | letter :: rest =>
    match Flag.spelled? ['-', letter] with
    | none => .error (.attached flag (letter :: rest))
    | some following =>
      if rest = [] then .ok [flag, following]
      else (cluster following rest).map (flag :: ·)

/-- Acts on a long spelling with a value; only a seed has one. -/
def applyAssigned (options : Options) (flag : Flag) (value : Text) : Except Stop Options :=
  if flag = .seed then options.applySeed value
  else .error (.misuse (.attached flag value))

/-- Acts on several options in a row. -/
def applyCluster (options : Options) (flag : Flag) (attached : Text) : Except Stop Options :=
  match cluster flag attached with
  | .error misuse => .error (.misuse misuse)
  | .ok flags => flags.foldlM apply options

/-- Acts on arguments from left to right; `run` holds the words since the last option. -/
def collect (options : Options) (run : List Text) : List Argument → Except Stop Options
  | [] => .ok (options.takeRun run)
  | .word text :: rest => options.collect (run ++ [text]) rest
  | .separator :: rest => options.collect (run ++ ["--".toList]) rest
  | .stray text :: rest =>
    let ended := options.takeRun run
    { ended with leftOver := ended.leftOver ++ [text] }.collect [] rest
  | .bare .seed :: .word value :: rest => do
    let next ← (options.takeRun run).applySeed value
    next.collect [] rest
  | .bare flag :: rest => do
    let next ← (options.takeRun run).apply flag
    next.collect [] rest
  | .assigned flag value :: rest => do
    let next ← (options.takeRun run).applyAssigned flag value
    next.collect [] rest
  | .clustered flag attached :: rest => do
    let next ← (options.takeRun run).applyCluster flag attached
    next.collect [] rest

/-- Checks that there is a sum and nothing is left over; a missing sum is reported first. -/
def check (options : Options) : Except Stop (Options × List Text) :=
  match options.words with
  | none => .error (.misuse .wordsMissing)
  | some words =>
    if options.leftOver = [] then .ok (options, words)
    else .error (.misuse (.leftOver options.leftOver))

/-- What arguments ask for, and the words of the sum. The seed of the settings holds unless the
arguments have their own. -/
def read (seed : Seed) (arguments : List Text) : Except Stop (Options × List Text) :=
  match Argument.classifyAll arguments with
  | .error misuse => .error (.misuse misuse)
  | .ok classed => ((start seed).collect [] classed).bind check

end Options

end DiceSum
