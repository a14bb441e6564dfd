import DiceSum.Text.Numeral
import DiceSum.Text.Quoted

/-!
# Arguments of the command

Every argument is classed on its own before any is acted on. A word is a part of a sum: anything that
does not start with a minus sign, a lone minus sign, a negative number, and text with a space in it. An
option is one of four, by a full spelling, by the start of a long spelling that no other option shares,
or by the letter of a short spelling with something attached. What else starts with a minus sign is a
stray option. After the first `--` all arguments are words.

Then arguments are taken from left to right. The first run of words becomes the sum, without the first
`--` among them; later runs are left over, and so are stray options. A seed takes the next word. Asking
for help ends everything at once, as does an option that is used wrongly.

The rules are those of option parsing in the releases 3.11.0 to 3.11.8. Later patch releases class an
argument such as `-v=v` differently (`Argument.ofShort`).
-/

namespace DiceSum

/-- The options of the command. -/
inductive Flag where
  | help
  | average
  | seed
  | verbose
deriving DecidableEq

namespace Flag

/-- All spellings, short ones with one minus sign and long ones with two. -/
def spellings : List (Text × Flag) :=
  [("-h".toList, help), ("--help".toList, help), ("--avg".toList, average),
   ("--seed".toList, seed), ("-v".toList, verbose), ("--verbose".toList, verbose)]

/-- The option with this spelling. -/
def spelled? (text : Text) : Option Flag :=
  spellings.lookup text

/-- The name of an option in messages: all its spellings. -/
def name (flag : Flag) : Text :=
  joinWith "/".toList ((spellings.filter (·.2 = flag)).map Prod.fst)

/-- The options that have a spelling which starts like this. -/
def startingWith (text : Text) : List (Text × Flag) :=
  spellings.filter fun (spelling, _) => text.isPrefixOf spelling

end Flag

/-- An argument, classed. -/
inductive Argument where
  /-- A part of a sum. -/
  | word (text : Text)
  /-- The first `--`. -/
  | separator
  /-- An option on its own. -/
  | bare (flag : Flag)
  /-- A long spelling with a value after an equals sign. -/
  | assigned (flag : Flag) (value : Text)
  /-- A short spelling with something attached. -/
  | clustered (flag : Flag) (attached : Text)
  /-- Something like an option that is none. -/
  | stray (text : Text)
deriving DecidableEq

/-- Wrong uses of the command. -/
inductive Misuse where
  /-- The start of several long spellings. -/
  | ambiguous (argument : Text) (spellings : List Text)
  /-- An option with something attached that it does not take. -/
  | attached (flag : Flag) (text : Text)
  /-- A seed without a value. -/
  | seedMissing
  /-- A seed that is no integer. -/
  | seedInvalid (value : Text)
  /-- No sum to roll. -/
  | wordsMissing
  /-- Arguments that are left over. -/
  | leftOver (arguments : List Text)
deriving DecidableEq

/-- The words for a wrong use. -/
def Misuse.message : Misuse → Text
  | ambiguous argument spellings =>
    "ambiguous option: ".toList ++ argument ++ " could match ".toList ++
      joinWith ", ".toList spellings
  | attached flag text =>
    "argument ".toList ++ flag.name ++ ": ignored explicit argument ".toList ++ quoted text
  | seedMissing => "argument ".toList ++ Flag.seed.name ++ ": expected one argument".toList
  | seedInvalid value =>
    "argument ".toList ++ Flag.seed.name ++ ": invalid int value: ".toList ++ quoted value
  | wordsMissing => "the following arguments are required: dice".toList
  | leftOver arguments => "unrecognized arguments: ".toList ++ joinWith [' '] arguments

/-- Digits of any script, at least one. -/
def isDigits (text : Text) : Bool :=
  text != [] && text.all fun c => (anyDigit? c).isSome

/-- A negative number, whole or with a fraction; the whole part of a fraction may be missing. -/
def isNegativeNumber : Text → Bool
  | '-' :: number =>
    isDigits number ||
      (number.contains '.' &&
        (number.takeWhile (· != '.')).all (fun c => (anyDigit? c).isSome) &&
        isDigits ((number.dropWhile (· != '.')).drop 1))
  | _ => false

/-- A text without a line feed at its end. -/
def dropFinalLineFeed (text : Text) : Text :=
  if text.getLast? = some '\n' then text.dropLast else text

/-- A text at its first equals sign: what stands before and, if there is one, what stands after. -/
def atEquals (text : Text) : Text × Option Text :=
  (text.takeWhile (· != '='),
    if text.contains '=' then some ((text.dropWhile (· != '=')).drop 1) else none)

namespace Argument

/-- Classes a text that starts with a minus sign and has nothing of an option. -/
def ofOther (text : Text) : Argument :=
  if isNegativeNumber (dropFinalLineFeed text) || text.contains ' ' then word text else stray text

/-- Classes a text that starts with two minus signs. What stands before the first equals sign has to
start just one long spelling. -/
def ofLong (text : Text) : Except Misuse Argument :=
  match Flag.startingWith (atEquals text).1 with
  | [] => .ok (ofOther text)
  | [(_, flag)] => .ok (((atEquals text).2.map (assigned flag)).getD (bare flag))
  | several => .error (.ambiguous text (several.map Prod.fst))

/-- Classes a text of a minus sign, a letter and more. An equals sign after the letter is left out of
what is attached, so that `-v=v` asks for all events twice. This is the rule up to release 3.11.8. -/
def ofShort (text : Text) (letter : Char) (attached : Text) : Argument :=
  match Flag.spelled? ['-', letter] with
  | none => ofOther text
  | some flag => clustered flag (if attached.head? = some '=' then attached.drop 1 else attached)

/-- Classes an argument before the first `--`. -/
def classify (text : Text) : Except Misuse Argument :=
  match text with
  | '-' :: second :: attached =>
    match Flag.spelled? text with
    | some flag => .ok (bare flag)
    | none => if second = '-' then ofLong text else .ok (ofShort text second attached)
  | _ => .ok (word text)

/-- Classes all arguments. -/
def classifyAll : List Text → Except Misuse (List Argument)
  | [] => .ok []
  | text :: rest =>
    if text = "--".toList then .ok (separator :: rest.map word)
    else do
      let first ← classify text
      return first :: (← classifyAll rest)

end Argument

end DiceSum
