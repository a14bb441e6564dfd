import DiceSum.Failure
import DiceSum.Term

/-!
# The mean of a sum

The mean of a die is half of one more than its sides, so the mean of every term is a whole number of
halves. Means are held as binary64 numbers: the mean of a term is its exact value rounded once, and the
mean of a sum adds the means of its terms from left to right, rounding after every addition. A mean is
rounded to 53 significant bits, and a value halfway between two neighbours goes to the one whose last
bit is zero.

The main statement is `roundHalves_neg`: both signs are rounded alike.

A term with a mean beyond the range of binary64 numbers has none; a running sum beyond that range
becomes an infinity and stays there. No mean is smaller in magnitude than one half unless it is zero,
so no precision is ever lost at the small end of the range, and zero has no sign.
-/

namespace DiceSum

/-- The nearest multiple of a unit; halfway, the even multiple. -/
def roundToUnit (unit n : Nat) : Nat :=
  if 2 * (n % unit) < unit ∨ 2 * (n % unit) = unit ∧ n / unit % 2 = 0 then n / unit * unit
  else (n / unit + 1) * unit

/-- The nearest number with at most so many significant bits; halfway, the one whose last bit is
zero. -/
def roundToBits (bits n : Nat) : Nat :=
  roundToUnit (Nat.pow 2 (n.log2 + 1 - bits)) n

/-- The significant bits of a binary64 number. -/
def significandBits : Nat := 53

/-- The nearest integer with at most 53 significant bits. -/
def roundHalves (halves : Int) : Int :=
  if halves < 0 then -(roundToBits significandBits halves.natAbs : Int)
  else roundToBits significandBits halves.natAbs

/-- Rounding treats both signs alike. -/
theorem roundHalves_neg (halves : Int) : roundHalves (-halves) = -roundHalves halves := by
  unfold roundHalves
  rw [Int.natAbs_neg]
  rcases Int.lt_trichotomy halves 0 with h | rfl | h
  · rw [if_neg (by omega), if_pos h, Int.neg_neg]
  · rfl
  · rw [if_pos (by omega), if_neg (by omega)]

/-- A mean as a binary64 number. -/
inductive Mean where
  /-- A whole number of halves. -/
  | finite (halves : Int)
  /-- An infinity, with its sign. -/
  | infinite (negative : Bool)
deriving DecidableEq

/-- The first number of halves beyond the range of binary64 numbers. -/
def beyondHalves : Nat := Nat.pow 2 1025

/-- The binary64 number nearest to so many halves. -/
def Mean.ofHalves (halves : Int) : Mean :=
  if (roundHalves halves).natAbs < beyondHalves then finite (roundHalves halves)
  else infinite (decide (halves < 0))

/-- Adds so many halves to a mean, and rounds. -/
def Mean.add : Mean → Int → Mean
  | finite halves, more => ofHalves (halves + more)
  | infinite negative, _ => infinite negative

/-- The exact mean of a term, in halves. -/
def Term.halves : Term → Int
  | dice count sides => count * (sides + 1)
  | constant value => 2 * value

/-- Why a term has no mean: it is too large. -/
def Term.meanTooLarge : Term → Failure
  | dice _ _ => .diceMeanTooLarge
  | constant _ => .constantTooLarge

/-- The mean of a term in halves, rounded to a binary64 number. -/
def Term.mean (term : Term) : Except Failure Int :=
  match Mean.ofHalves term.halves with
  | .finite halves => .ok halves
  | .infinite _ => .error term.meanTooLarge

/-- The mean of a sum. -/
def mean (terms : List Term) : Except Failure Mean := do
  let parts ← terms.mapM Term.mean
  return parts.foldl Mean.add (.finite 0)

end DiceSum
