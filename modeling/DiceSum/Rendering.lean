import DiceSum.Term
import DiceSum.Text.Decimal

/-!
# Written terms

A term is written in full, with its count even if that is one, and the terms of a sum are joined by
plus signs; a negative term keeps its minus sign after the plus, as in `2d20 + -5`. A rolled term
shows its values and its subtotal, a rolled constant only its value, with a sign.
-/

namespace DiceSum

/-- The text of a term. -/
def Term.render : Term → Text
  | dice count sides => Decimal.ofInt count ++ 'd' :: Decimal.ofInt sides
  | constant value => Decimal.ofInt value

/-- The text of a sum. -/
def render (terms : List Term) : Text :=
  joinWith " + ".toList (terms.map Term.render)

/-- A list of integers between square brackets. -/
def renderValues (values : List Int) : Text :=
  '[' :: joinWith ", ".toList (values.map Decimal.ofInt) ++ [']']

/-- The text of a rolled term. A constant is shown as its term has it. -/
def Rolled.render (rolled : Rolled) : Text :=
  match rolled.term with
  | .dice count sides =>
    (Term.dice count sides).render ++ ": rolls ".toList ++ renderValues rolled.values ++
      " => ".toList ++ Decimal.ofInt rolled.subtotal
  | .constant value => Decimal.signed value

/-- The text of a whole roll: every rolled term, and then the total. -/
def explain (rolls : List Rolled) : Text :=
  joinWith "; ".toList (rolls.map Rolled.render) ++ " => ".toList ++ Decimal.ofInt (total rolls)

end DiceSum
