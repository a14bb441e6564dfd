import DiceSum.Term

/-!
# Rolling

Rolling asks for one face per die, from the first term to the last, and is written once for every way
of answering: `draw sides` is the answer to one question, in any monad. A generator that keeps a
state, a script, and a list of all faces that a die can show are all such answers.

Dice are counted down as they are asked for, and no list of questions is made beforehand: a sum may
count more dice than could ever be rolled, and still fail at its first question.

The main statements are `drawFaces_eq_mapM`, the answers to a question asked over and over, and
`roll_append`: rolling two sums in a row is rolling the first and then the second.
-/

namespace DiceSum

variable {m : Type → Type} [Monad m]

/-- Asks for the faces of so many dice, after those that are known, of which the latest comes first. -/
def drawFacesAfter (draw : Int → m Int) (sides : Int) : Nat → List Int → m (List Int)
  | 0, known => return known.reverse
  | count + 1, known => do
    let face ← draw sides
    drawFacesAfter draw sides count (face :: known)

/-- Asks for the faces of so many dice. A question that fails ends the roll at once, however many dice
are left. -/
def drawFaces (draw : Int → m Int) (sides : Int) (count : Nat) : m (List Int) :=
  drawFacesAfter draw sides count []

/-- Drawing more faces asks for them one by one and puts them behind the faces known already. -/
theorem drawFacesAfter_eq_mapM [LawfulMonad m] (draw : Int → m Int) (sides : Int) (count : Nat)
    (known : List Int) :
    drawFacesAfter draw sides count known =
      (known.reverse ++ ·) <$> (List.replicate count sides).mapM draw := by
  induction count generalizing known with
  | zero => simp [drawFacesAfter]
  | succ count ih => simp [drawFacesAfter, ih, List.replicate_succ]

/-- Asking for the faces of so many dice is answering the same question so many times. -/
theorem drawFaces_eq_mapM [LawfulMonad m] (draw : Int → m Int) (sides : Int) (count : Nat) :
    drawFaces draw sides count = (List.replicate count sides).mapM draw := by
  simp [drawFaces, drawFacesAfter_eq_mapM]

/-- Rolls one term. Dice of a negative count show negative values; a constant asks for nothing. -/
def Term.roll (draw : Int → m Int) : Term → m Rolled
  | constant value => return { term := constant value, values := [value] }
  | dice count sides => do
    let faces ← drawFaces draw sides count.natAbs
    return { term := dice count sides, values := if count < 0 then faces.map (-·) else faces }

/-- Rolls the terms of a sum from left to right. -/
def roll (draw : Int → m Int) (terms : List Term) : m (List Rolled) :=
  terms.mapM (Term.roll draw)

/-- Rolling two sums in a row is rolling the first and then the second. -/
theorem roll_append [LawfulMonad m] (draw : Int → m Int) (before after : List Term) :
    roll draw (before ++ after) = (do
      let first ← roll draw before
      let second ← roll draw after
      return first ++ second) := by
  simp [roll]

end DiceSum
