/-!
# Terms of a dice sum

A dice sum is a list of terms, and a term is a number of equal dice or a constant. A negative count
stands for dice that are subtracted. Counts, sides and values are unbounded integers here: which of
them a text can write is decided where texts are read (`DiceSum.Reading`).

A rolled term keeps the values its dice showed, with the sign of the term. Subtotals and totals are
exact sums.
-/

namespace DiceSum

/-- One summand of a dice sum. -/
inductive Term where
  /-- `count` dice with `sides` faces each; a negative count subtracts them. -/
  | dice (count sides : Int)
  /-- A fixed number. -/
  | constant (value : Int)
deriving DecidableEq

/-- A term with the values that it contributed. -/
structure Rolled where
  term : Term
  values : List Int
deriving DecidableEq

/-- A rolled term contributes the sum of its values. -/
def Rolled.subtotal (rolled : Rolled) : Int :=
  rolled.values.foldr (· + ·) 0

/-- A roll is worth the sum of its subtotals. -/
def total (rolls : List Rolled) : Int :=
  (rolls.map Rolled.subtotal).foldr (· + ·) 0

/-- No rolled terms have a total of zero. -/
@[simp]
theorem total_nil : total [] = 0 := rfl

/-- The total of rolled terms is the first subtotal and the total of the others. -/
@[simp]
theorem total_cons (rolled : Rolled) (rolls : List Rolled) :
    total (rolled :: rolls) = rolled.subtotal + total rolls := by
  simp [total]

/-- The total of two rolls in a row is the sum of their totals. -/
theorem total_append (before after : List Rolled) :
    total (before ++ after) = total before + total after := by
  induction before with
  | nil => simp
  | cons rolled before ih => rw [List.cons_append, total_cons, total_cons, ih, Int.add_assoc]

/-- The least count and the least constant that a text can write, with 32 bits and a sign. -/
def leastSigned : Int := -0x80000000

/-- The greatest count and the greatest constant that a text can write, with 32 bits and a sign. -/
def greatestSigned : Int := 0x7fffffff

/-- The greatest number of sides that a text can write, with 32 bits. -/
def greatestSides : Int := 0xffffffff

end DiceSum
