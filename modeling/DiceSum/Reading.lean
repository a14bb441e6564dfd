import DiceSum.Refusal
import DiceSum.Term
import DiceSum.Token

/-!
# Reading a dice sum

A text is read token by token. Gaps mean nothing, dice and constants become terms once their numbers
pass the range checks, and the first token at fault ends the reading: terms before it are lost, text
after it is not looked at.

A number is converted only if it has at most ten digits after its leading zeros, which is enough for
any number in range. In a dice token the lengths of both numbers are checked before either range.
How a run of digits becomes a number is a parameter of reading (`Conversion`), so that this cut can be
compared with a conversion of every run.
-/

namespace DiceSum

/-- How the digits of a number in a token become its magnitude. -/
abbrev Conversion := Field → Text → Except Fault Nat

/-- Numbers with more digits than this are out of range whatever the digits are. -/
def maxSignificantDigits : Nat := 10

/-- The digits of a number without its leading zeros. -/
def significant (digits : Text) : Text :=
  digits.dropWhile (· == '0')

/-- The value of a run of digits, unless it has too many. -/
def magnitude : Conversion := fun field digits =>
  if maxSignificantDigits < (significant digits).length then
    .error (.tooLong field (significant digits).length)
  else .ok (Decimal.value (significant digits))

/-- A number that lies between two bounds. -/
def within (field : Field) (low high value : Int) : Except Fault Int :=
  if low ≤ value ∧ value ≤ high then .ok value else .error (.outside field value)

/-- A number of sides, which is positive. -/
def sidesWithin (sides : Nat) : Except Fault Int :=
  if sides = 0 then .error .noSides else within .sides 1 greatestSides sides

/-- The number of dice without its sign; one die if no digits are written. -/
def countMagnitude (convert : Conversion) (digits : Text) : Except Fault Nat :=
  if digits = [] then .ok 1 else convert .count digits

/-- Dice with this sign and these digits. -/
def readDice (convert : Conversion) (sign : Option Sign) (count sides : Text) :
    Except Fault Term := do
  let dice ← countMagnitude convert count
  let faces ← convert .sides sides
  let signed ← within .count leastSigned greatestSigned (Sign.apply sign dice)
  let checked ← sidesWithin faces
  return .dice signed checked

/-- A constant with this sign and these digits. -/
def readConstant (convert : Conversion) (sign : Option Sign) (digits : Text) :
    Except Fault Term := do
  let number ← convert .constant digits
  let signed ← within .constant leastSigned greatestSigned (Sign.apply sign number)
  return .constant signed

/-- The terms of one token: none for a gap, one for dice and for a constant. -/
def Token.terms (convert : Conversion) : Token → Except Fault (List Term)
  | gap _ => .ok []
  | dice sign _ count _ sides => (readDice convert sign count sides).map ([·])
  | constant sign _ digits => (readConstant convert sign digits).map ([·])
  | unknown _ => .error .unknown

/-- Reads tokens that start at a position. -/
def readFrom (convert : Conversion) (position : Nat) : List Token → Except Rejection (List Term)
  | [] => .ok []
  | token :: rest =>
    match token.terms convert with
    | .error fault => .error { token := token.text, position, fault }
    | .ok terms => (readFrom convert (position + token.text.length) rest).map (terms ++ ·)

/-- Reads a text. -/
def read (text : Text) : Except Rejection (List Term) :=
  readFrom magnitude 0 (Token.scan text)

/-- Reads a text that has to have a term. -/
def readSome (text : Text) : Except Refusal (List Term) :=
  match read text with
  | .error rejection => .error rejection.refusal
  | .ok [] => .error .nothingToRoll
  | .ok terms => .ok terms

end DiceSum
