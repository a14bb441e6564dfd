import DiceSum.Mean
import DiceSum.Text.Decimal

/-!
# The written form of a mean

A mean is written with the fewest decimal digits that no other binary64 number is nearest to, and among
decimals of that length with the one nearest to the mean. A decimal reads back as the mean if it lies
no further than half the distance to the neighbouring binary64 numbers; exactly halfway it reads back
if the last bit of the mean is zero.

The search is exact. Magnitudes are counted in steps of 2 ^ -55, fine enough to measure half the
distance between neighbours down to one half, and for each number of digits only the two decimals next
to the mean have to be looked at.
-/

namespace DiceSum

/-- A decimal number: a whole number times a power of ten. -/
structure DecimalNumber where
  mantissa : Nat
  exponent : Int

/-- The numbers that read back as one binary64 number, counted in steps of 2 ^ -55. -/
structure ReadBack where
  low : Nat
  exact : Nat
  high : Nat
  /-- Whether the two ends read back as well. -/
  closed : Bool

namespace ReadBack

/-- One, in steps of 2 ^ -55. -/
def one : Nat := Nat.pow 2 55

/-- The numbers that read back as so many halves. Below a power of two, neighbours are half as far
away as above it. -/
def ofHalves (halves : Nat) : ReadBack :=
  let length := halves.log2 + 1
  let exact := halves * Nat.pow 2 54
  let above := Nat.pow 2 length
  let below := if halves = Nat.pow 2 halves.log2 then Nat.pow 2 (length - 1) else above
  { low := exact - below
    exact
    high := exact + above
    closed := halves / Nat.pow 2 (length - significandBits) % 2 = 0 || length < significandBits }

/-- Whether a fraction of one, given with its denominator, reads back. -/
def holds (interval : ReadBack) (numerator denominator : Nat) : Bool :=
  if interval.closed then
    interval.low * denominator ≤ numerator && numerator ≤ interval.high * denominator
  else
    interval.low * denominator < numerator && numerator < interval.high * denominator

/-- The multiple of a power of ten that reads back and is nearest to the exact number, if one of the
two multiples next to it reads back. -/
def nearest? (interval : ReadBack) (exponent : Int) : Option DecimalNumber :=
  let step := Nat.pow 10 exponent.toNat * one
  let denominator := Nat.pow 10 (-exponent).toNat
  let exact := interval.exact * denominator
  let lower := exact / step
  let upper := lower + 1
  if interval.holds (lower * step) denominator &&
      !(interval.holds (upper * step) denominator && upper * step - exact < exact - lower * step) then
    some { mantissa := lower, exponent }
  else if interval.holds (upper * step) denominator then some { mantissa := upper, exponent }
  else none

end ReadBack

/-- The position of the leading digit of a positive number of halves, counted from the units. -/
def leadingPosition (halves : Nat) : Int :=
  if halves < 2 then -1 else ((Decimal.ofNat (halves / 2)).length : Int) - 1

/-- The shortest decimal that reads back as a positive number of halves. Seventeen digits always read
back. -/
def shortest (halves : Nat) : DecimalNumber :=
  ((List.range 17).findSome? fun (digits : Nat) =>
    (ReadBack.ofHalves halves).nearest? (leadingPosition halves - digits)).getD
      { mantissa := 0, exponent := 0 }

/-- How a decimal number is laid out. -/
structure Layout where
  /-- The position of the leading digit from which on an exponent is written. -/
  firstScientific : Int
  /-- The least number of digits of an exponent. -/
  exponentDigits : Nat

/-- A text filled up with zeros in front. -/
def padLeft (length : Nat) (text : Text) : Text :=
  List.replicate (length - text.length) '0' ++ text

/-- Digits with a point after so many of them, and at least one digit on either side. -/
def positional (digits : Text) (point : Int) : Text :=
  if point ≤ 0 then '0' :: '.' :: List.replicate (-point).toNat '0' ++ digits
  else if digits.length ≤ point.toNat then
    digits ++ List.replicate (point.toNat - digits.length) '0' ++ ['.', '0']
  else digits.take point.toNat ++ '.' :: digits.drop point.toNat

/-- Digits with a point after the first, if there are more, and an exponent. -/
def Layout.scientific (layout : Layout) (digits : Text) (exponent : Int) : Text :=
  let fraction := if digits.length ≤ 1 then [] else '.' :: digits.drop 1
  let sign := if exponent < 0 then '-' else '+'
  digits.take 1 ++ fraction ++
    'e' :: sign :: padLeft layout.exponentDigits (Decimal.ofNat exponent.natAbs)

/-- The text of a decimal number: no zeros at the end, and an exponent for large numbers. -/
def Layout.text (layout : Layout) (number : DecimalNumber) : Text :=
  let written := Decimal.ofNat number.mantissa
  let digits := (written.reverse.dropWhile (· == '0')).reverse
  let point := number.exponent + written.length
  if point - 1 < layout.firstScientific then positional digits point
  else layout.scientific digits (point - 1)

/-- Means are written without an exponent below 10 ^ 16, and exponents have two digits at least. -/
def Mean.layout : Layout where
  firstScientific := 16
  exponentDigits := 2

/-- The text of a mean. -/
def Mean.text : Mean → Text
  | finite halves =>
    if halves = 0 then "0.0".toList
    else if halves < 0 then '-' :: layout.text (shortest halves.natAbs)
    else layout.text (shortest halves.natAbs)
  | infinite true => "-inf".toList
  | infinite false => "inf".toList

end DiceSum
