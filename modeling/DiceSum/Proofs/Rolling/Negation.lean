import DiceSum.Proofs.Rolling.Answers

/-!
# Rolling the opposite

The opposite of a sum has the opposite of every count and of every constant. It asks for the same faces in
the same order, and everything that it contributes is negated: values, subtotals and totals (`roll_map_neg`,
`total_map_neg`). The sign is applied to each value and nowhere else, so this holds for every way of
answering; where no dice are asked for, both signs contribute nothing.
-/

namespace DiceSum

/-- The term that contributes the opposite. -/
def Term.neg : Term → Term
  | dice count sides => dice (-count) sides
  | constant value => constant (-value)

/-- The opposite term with the opposite values. -/
def Rolled.neg (rolled : Rolled) : Rolled where
  term := rolled.term.neg
  values := rolled.values.map (-·)

/-- The opposite of a rolled term has the opposite subtotal. -/
theorem Rolled.subtotal_neg (rolled : Rolled) : rolled.neg.subtotal = -rolled.subtotal := by
  change (rolled.values.map (-·)).foldr (· + ·) 0 = -rolled.values.foldr (· + ·) 0
  induction rolled.values with
  | nil => rfl
  | cons value values ih => rw [List.map_cons, List.foldr_cons, ih, List.foldr_cons, Int.neg_add]

/-- Opposite rolled terms have the opposite total. -/
theorem total_map_neg (rolls : List Rolled) : total (rolls.map Rolled.neg) = -total rolls := by
  induction rolls with
  | nil => rfl
  | cons rolled rolls ih =>
    rw [List.map_cons, total_cons, ih, Rolled.subtotal_neg, total_cons, Int.neg_add]

section Runs

variable {m : Type → Type} [Monad m] [LawfulMonad m]

/-- The opposite term is rolled with the same questions, to the opposite values. -/
theorem Term.roll_neg (draw : Int → m Int) (term : Term) :
    term.neg.roll draw = Rolled.neg <$> term.roll draw := by
  cases term with
  | constant value => simp [neg, roll, Rolled.neg]
  | dice count sides =>
    simp only [neg, roll, Int.natAbs_neg, map_bind, map_pure, Rolled.neg]
    rcases Int.lt_trichotomy count 0 with hneg | rfl | hpos
    · have hother : ¬ 0 < count := by omega
      simp [hneg, hother]
    · -- No dice show no values, which have no sign.
      simp [drawFaces_eq_mapM]
    · have hsign : ¬ count < 0 := by omega
      simp [hsign, hpos]

/-- The opposite of a sum is rolled with the same questions, to the opposite values. -/
theorem roll_map_neg (draw : Int → m Int) (terms : List Term) :
    roll draw (terms.map Term.neg) = List.map Rolled.neg <$> roll draw terms := by
  unfold roll
  induction terms with
  | nil => simp
  | cons term terms ih => simp [ih, Term.roll_neg]

end Runs

end DiceSum
