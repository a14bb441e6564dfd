/-!
# Seeds

A seed is an integer from which a source starts, always in the same way. None need be given. A command
can also be handed a seed with nothing in it, and from that no source starts.
-/

namespace DiceSum

/-- What is given as the seed of a source. -/
inductive Seed where
  /-- Nothing is given. -/
  | absent
  /-- An integer. -/
  | number (n : Int)
  /-- A seed with nothing in it. -/
  | blank
deriving DecidableEq

/-- The seed that an optional integer gives. -/
def Seed.ofOption : Option Int → Seed
  | some n => number n
  | none => absent

end DiceSum
