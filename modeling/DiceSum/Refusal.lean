import DiceSum.Text.Decimal

/-!
# Why a text is refused

A token can be at fault in four ways: a number has too many digits to be looked at, a number is out of
range, a die has no sides, or the token is neither dice nor a constant. A rejection names the token,
its position and the fault; this is all that is known inside.

A client sees less. A refusal tells a token that was not understood from a number out of range, and
a text without terms is refused as well. `Refusal.message` is the wording, in which the token stands
as it was written.
-/

namespace DiceSum

/-- The numbers that a token can hold. -/
inductive Field where
  | count
  | sides
  | constant
deriving DecidableEq

/-- The name of a number in messages. -/
def Field.name : Field → Text
  | count => "count".toList
  | sides => "sides".toList
  | constant => "constant".toList

/-- What is wrong with a token. -/
inductive Fault where
  /-- A number with this many digits after its leading zeros. -/
  | tooLong (field : Field) (digits : Nat)
  /-- A number out of range, with its sign. -/
  | outside (field : Field) (value : Int)
  /-- Dice with zero sides. -/
  | noSides
  /-- Neither dice nor a constant. -/
  | unknown
deriving DecidableEq

/-- The first token at fault in a text, and the number of characters before it. -/
structure Rejection where
  token : Text
  position : Nat
  fault : Fault
deriving DecidableEq

/-- What a client is told about a text that is not rolled. -/
inductive Refusal where
  /-- A token that is neither dice nor a constant, or dice with zero sides. -/
  | notUnderstood (token : Text) (position : Nat)
  /-- A token with a number out of range. -/
  | outOfRange (field : Field) (token : Text) (position : Nat)
  /-- A text without terms. -/
  | nothingToRoll
deriving DecidableEq

/-- The refusal that follows from a rejection: the two faults of size look alike to a client, and so do
the two others. -/
def Rejection.refusal (rejection : Rejection) : Refusal :=
  match rejection.fault with
  | .tooLong field _ => .outOfRange field rejection.token rejection.position
  | .outside field _ => .outOfRange field rejection.token rejection.position
  | .noSides => .notUnderstood rejection.token rejection.position
  | .unknown => .notUnderstood rejection.token rejection.position

/-- The text that a client is shown. -/
def Refusal.message : Refusal → Text
  | notUnderstood token position =>
    "[INVALID_TOKEN] Could not understand token '".toList ++ token ++ "' at position ".toList ++
      Decimal.ofNat position ++ ". Example: '2d20 + 5' or '-d8 - 3'.".toList
  | outOfRange field token position =>
    "[NUMERIC_OVERFLOW] The ".toList ++ field.name ++ " in '".toList ++ token ++
      "' at position ".toList ++ Decimal.ofNat position ++ " is out of range.".toList
  | nothingToRoll =>
    "[EMPTY_INPUT] No dice or constants found. Example: 'd20' or '2d6 + 3'.".toList

end DiceSum
