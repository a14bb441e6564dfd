import DiceSum.Text.Decimal

/-!
# Numerals of all scripts

Unicode 14 has ten decimal digits in each of several scripts, and they stand in order from zero to
nine. An integer may be written with digits of any script, with single low lines between digits, with
one sign in front, and with white space around it. This is wider than the numbers of dice notation,
which have ASCII digits only.
-/

namespace DiceSum

/-- The code points of the digits zero. -/
def zeroDigits : List Nat :=
  [0x30, 0x660, 0x6f0, 0x7c0, 0x966, 0x9e6, 0xa66, 0xae6, 0xb66, 0xbe6, 0xc66, 0xce6, 0xd66, 0xde6,
   0xe50, 0xed0, 0xf20, 0x1040, 0x1090, 0x17e0, 0x1810, 0x1946, 0x19d0, 0x1a80, 0x1a90, 0x1b50,
   0x1bb0, 0x1c40, 0x1c50, 0xa620, 0xa8d0, 0xa900, 0xa9d0, 0xa9f0, 0xaa50, 0xabf0, 0xff10, 0x104a0,
   0x10d30, 0x11066, 0x110f0, 0x11136, 0x111d0, 0x112f0, 0x11450, 0x114d0, 0x11650, 0x116c0,
   0x11730, 0x118e0, 0x11950, 0x11c50, 0x11d50, 0x11da0, 0x16a60, 0x16ac0, 0x16b50, 0x1d7ce,
   0x1d7d8, 0x1d7e2, 0x1d7ec, 0x1d7f6, 0x1e140, 0x1e2f0, 0x1e950, 0x1fbf0]

/-- The number that a decimal digit of any script stands for. -/
def anyDigit? (c : Char) : Option Nat :=
  (zeroDigits.find? fun start => start ≤ c.toNat && c.toNat < start + 10).map (c.toNat - ·)

/-- White space around an integer: the blanks of dice notation and the wider spaces and line ends of
Unicode. -/
def isSpace (c : Char) : Bool :=
  isBlank c || [0x85, 0xa0, 0x1680, 0x2028, 0x2029, 0x202f, 0x205f, 0x3000].contains c.toNat ||
    (0x2000 ≤ c.toNat && c.toNat ≤ 0x200a)

/-- A text without the white space at its two ends. -/
def trim (text : Text) : Text :=
  ((text.dropWhile isSpace).reverse.dropWhile isSpace).reverse

namespace Numeral

/-- The values of digits with single low lines between them. -/
def digits? : Text → Option (List Nat)
  | [] => none
  | [c] => (anyDigit? c).map ([·])
  | c :: '_' :: rest => do
    let first ← anyDigit? c
    return first :: (← digits? rest)
  | c :: rest => do
    let first ← anyDigit? c
    return first :: (← digits? rest)

/-- The value of digits, the most significant first. -/
def valueOf (digits : List Nat) : Nat :=
  digits.foldl (fun n digit => 10 * n + digit) 0

/-- The most digits that are converted to a number. -/
def maxDigits : Nat := 4300

/-- An integer without white space: one sign at most, and digits. -/
def signed? (text : Text) : Option Int := do
  let (negative, unsigned) := match text with
    | '-' :: rest => (true, rest)
    | '+' :: rest => (false, rest)
    | _ => (false, text)
  let digits ← digits? unsigned
  if maxDigits < digits.length then none
  else if negative then some (-(valueOf digits : Int))
  else some (valueOf digits)

/-- The integer that a text stands for, with digits of any script and white space around it. -/
def integer? (text : Text) : Option Int :=
  signed? (trim text)

end Numeral

end DiceSum
