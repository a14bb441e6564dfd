import DiceSum.Text.Numeral

/-!
# Whole numbers of settings

A setting that holds a whole number may be written with more than its digits: white space around it, one
sign in front, leading zeros, single low lines between digits, and a fraction of zeros. These are taken
off one after another. What stays has to be plain: ASCII digits with no zero in front of other digits,
and a minus sign at most before them.

Two liberties follow. Low lines among leading zeros are taken off with the zeros, however many stand
together, so `0__7` is seven. And a minus sign may follow leading zeros instead of standing in front, so
`0-1` is minus one.
-/

namespace DiceSum.WholeNumber

/-- Whether a text starts with a minus sign, and the text without the sign that it starts with. -/
def cutSign : Text → Bool × Text
  | '-' :: rest => (true, rest)
  | '+' :: rest => (false, rest)
  | text => (false, text)

/-- What stays of a text behind leading zeros and low lines, of which `last` is the latest. If nothing
but a fraction follows, `last` stays in front of it. -/
def afterZeros? (last : Char) : Text → Option Text
  | [] => some [last]
  | c :: rest =>
    if c = '0' ∨ c = '_' then afterZeros? c rest
    else if c = '.' then some (last :: c :: rest)
    else if c = '-' ∨ c.isDigit then some (c :: rest)
    else none

/-- A text without leading zeros, provided that it starts with a digit. -/
def dropZeros? : Text → Option Text
  | [] => none
  | c :: rest =>
    if c = '0' then afterZeros? c rest
    else if c.isDigit then some (c :: rest)
    else none

/-- A text without a point and the zeros after it, of which there is at least one; any other fraction
stays. -/
def dropZeroFraction (text : Text) : Text :=
  let fraction := (text.dropWhile (· != '.')).drop 1
  if fraction ≠ [] ∧ fraction.all (· == '0') then text.takeWhile (· != '.') else text

/-- No low line is the neighbour of another, nor does one stand at an end. -/
def hasSingleLowLines (text : Text) : Bool :=
  (('_' :: text).zip (text ++ ['_'])).all fun pair => pair != ('_', '_')

/-- A text without its low lines; they stay where they do not stand singly between other characters. -/
def dropLowLines (text : Text) : Text :=
  if hasSingleLowLines text then text.filter (· != '_') else text

/-- The natural number that plain digits stand for. -/
def natural? (digits : Text) : Option Nat :=
  if digits = [] ∨ digits.any (fun c => !c.isDigit) then none
  else if digits.head? = some '0' ∧ digits ≠ ['0'] then none
  else if Numeral.maxDigits < digits.length then none
  else some (Decimal.value digits)

/-- The integer that plain digits stand for, with a minus sign at most before them. -/
def plain? (text : Text) : Option Int :=
  match cutSign text with
  | (true, digits) => (natural? digits).map fun n => -(n : Int)
  | (false, _) => (natural? text).map Int.ofNat

/-- The integer that the text of a setting stands for. -/
def ofText? (text : Text) : Option Int := do
  let (negative, unsigned) := cutSign (trim text)
  let number := dropLowLines (dropZeroFraction (← dropZeros? unsigned))
  plain? (if negative then '-' :: number else number)

end DiceSum.WholeNumber
