import DiceSum.Refusal
import DiceSum.Text.Quoted

/-!
# Why a request fails

A request fails because its text is refused, or because a computation on terms cannot be carried out:
dice without faces have nothing to show, and a mean can be too large to be written as a number. Terms
that were read from a text meet only the first cause. A command fails as a whole if its settings name
no known level of detail, or if it is given a seed with nothing in it.

A service hides the causes of a refusal and hands on the message alone.
-/

namespace DiceSum

/-- Why a request has no answer. -/
inductive Failure where
  /-- The text is refused. -/
  | refused (refusal : Refusal)
  /-- A service refuses the request, with this message. -/
  | declined (message : Text)
  /-- Dice with this number of sides, which is not positive. -/
  | noFaces (sides : Int)
  /-- A number of a script has to be reduced to dice with no sides. -/
  | noRemainder
  /-- The mean of dice is too large for a binary64 number. -/
  | diceMeanTooLarge
  /-- A constant is too large for a binary64 number. -/
  | constantTooLarge
  /-- The settings ask for a level of detail by this name, in capital letters. -/
  | unknownLevel (name : Text)
  /-- The seed has nothing in it. -/
  | blankSeed
deriving DecidableEq

/-- The text that describes a failure. -/
def Failure.message : Failure → Text
  | refused refusal => refusal.message
  | declined message => message
  | noFaces sides =>
    "empty range for randrange() (1, ".toList ++ Decimal.ofInt (sides + 1) ++ ", ".toList ++
      Decimal.ofInt sides ++ [')']
  | noRemainder => "integer modulo by zero".toList
  | diceMeanTooLarge => "integer division result too large for a float".toList
  | constantTooLarge => "int too large to convert to float".toList
  | unknownLevel name => "Unknown level: ".toList ++ quoted name
  | blankSeed =>
    "The only supported seed types are: None,\nint, float, str, bytes, and bytearray.".toList

/-- What a service makes of a failure: of a refusal only the message is left. -/
def Failure.flatten : Failure → Failure
  | refused refusal => declined refusal.message
  | failure => failure

end DiceSum
