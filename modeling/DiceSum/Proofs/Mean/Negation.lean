import DiceSum.Proofs.Mean.Stagnation
import DiceSum.Proofs.Rolling.Negation

/-!
# The mean of the opposite

Rounding to a binary64 number treats both signs alike, so the mean of the opposite of a sum is the
negative of the mean: for every term, for every running sum, and also where the range of binary64 numbers
ends (`mean_map_neg`). Zero has no sign here, so there is only one zero to compare. With terms of a
magnitude that can be rolled and averaged with either sign, a sum and its opposite mirror each other in
everything (`negation_mirrored`).
-/

namespace DiceSum

namespace Mean

/-- The mean on the other side of zero. -/
def neg : Mean → Mean
  | finite halves => finite (-halves)
  | infinite negative => infinite (!negative)

/-- The mean of opposite halves is the opposite mean. -/
theorem ofHalves_neg (halves : Int) : ofHalves (-halves) = (ofHalves halves).neg := by
  unfold ofHalves
  rw [roundHalves_neg, Int.natAbs_neg]
  split
  · rfl
  · rename_i hlarge
    -- What is beyond the range is not zero, so it has a sign.
    have hne : halves ≠ 0 := by
      rintro rfl
      exact hlarge (Nat.lt_trans (by decide) (two_pow_lt_beyondHalves (k := 0) (by decide)))
    have hsign : decide (-halves < 0) = !decide (halves < 0) := by
      rw [← decide_not]
      exact decide_eq_decide.mpr (by omega)
    rw [hsign]
    rfl

/-- Additions are mirrored, with their rounding. -/
theorem add_neg (mean : Mean) (more : Int) : mean.neg.add (-more) = (mean.add more).neg := by
  cases mean with
  | finite halves =>
    change ofHalves (-halves + -more) = (ofHalves (halves + more)).neg
    rw [← Int.neg_add, ofHalves_neg]
  | infinite negative => rfl

/-- Running sums of opposite summands from an opposite start are opposite. -/
theorem foldl_add_neg (parts : List Int) (start : Mean) :
    (parts.map (-·)).foldl add start.neg = (parts.foldl add start).neg := by
  induction parts generalizing start with
  | nil => rfl
  | cons part parts ih => rw [List.map_cons, List.foldl_cons, add_neg, ih, List.foldl_cons]

end Mean

namespace Term

/-- The exact mean of an opposite term is the opposite one. -/
theorem halves_neg (term : Term) : term.neg.halves = -term.halves := by
  cases term with
  | dice count sides => exact Int.neg_mul count (sides + 1)
  | constant value => exact Int.mul_neg 2 value

/-- The mean of the opposite term is the negative of the mean, and both are too large if one is. -/
theorem mean_neg (term : Term) : term.neg.mean = term.mean.map (-·) := by
  have hfailure : term.neg.meanTooLarge = term.meanTooLarge := by cases term <;> rfl
  unfold mean
  rw [halves_neg, Mean.ofHalves_neg, hfailure]
  cases Mean.ofHalves term.halves <;> rfl

/-- The dice of a term of such a magnitude have faces. -/
theorem WithinMagnitude.hasFaces {term : Term} (h : term.WithinMagnitude) : term.HasFaces := by
  cases term with
  | dice count sides =>
    obtain ⟨-, hone, -⟩ := h
    exact hone
  | constant value => trivial

end Term

/-- The means of opposite terms are the opposite means, and they fail as the means of the terms do. -/
theorem mapM_mean_neg (terms : List Term) :
    (terms.map Term.neg).mapM Term.mean = (terms.mapM Term.mean).map (List.map (-·)) := by
  induction terms with
  | nil => rfl
  | cons term terms ih =>
    rw [List.map_cons, List.mapM_cons, List.mapM_cons, ih, Term.mean_neg]
    cases term.mean with
    | error failure => rfl
    | ok part => cases terms.mapM Term.mean <;> rfl

/-- The mean of the opposite of a sum is the negative of the mean. -/
theorem mean_map_neg (terms : List Term) : mean (terms.map Term.neg) = (mean terms).map Mean.neg := by
  unfold mean
  rw [mapM_mean_neg]
  cases terms.mapM Term.mean with
  | error failure => rfl
  | ok parts => exact congrArg Except.ok (Mean.foldl_add_neg parts (.finite 0))

variable {terms : List Term}

/-- Terms of such a magnitude have a finite mean, and their opposites have the negative. -/
theorem mean_mirrored (h : ∀ term ∈ terms, term.WithinMagnitude) :
    ∃ halves, mean terms = .ok (.finite halves) ∧
      mean (terms.map Term.neg) = .ok (.finite (-halves)) := by
  obtain ⟨halves, hmean, -⟩ :=
    mean_bounded_of_halves_le fun term hterm => (h term hterm).natAbs_halves_le
  refine ⟨halves, hmean, ?_⟩
  rw [mean_map_neg, hmean]
  rfl

/-- A sum and its opposite mirror each other. From a source that answers, the opposite asks the same
questions, leaves the source in the same state and has the opposite of every value, of every subtotal and
of the total. The rounded mean of every term is the opposite, and so is every running sum, which is the
mean of the first terms, up to the mean of the whole sum. -/
theorem negation_mirrored {σ : Type} {draw : Int → Drawing σ Int} (hdraw : Answers draw)
    (h : ∀ term ∈ terms, term.WithinMagnitude) (before : Recorded σ) :
    (∃ rolls after,
      (roll (recording draw) terms).run.run before = (.ok rolls, after) ∧
        (roll (recording draw) (terms.map Term.neg)).run.run before =
          (.ok (rolls.map Rolled.neg), after) ∧
        (rolls.map Rolled.neg).map Rolled.subtotal = (rolls.map Rolled.subtotal).map (-·) ∧
        total (rolls.map Rolled.neg) = -total rolls) ∧
      (∀ term ∈ terms, ∃ part, term.mean = .ok part ∧ term.neg.mean = .ok (-part)) ∧
      (∀ length, ∃ sum, mean (terms.take length) = .ok (.finite sum) ∧
        mean ((terms.map Term.neg).take length) = .ok (.finite (-sum))) ∧
      ∃ halves, mean terms = .ok (.finite halves) ∧
        mean (terms.map Term.neg) = .ok (.finite (-halves)) := by
  refine ⟨?rolls, ?parts, ?running, mean_mirrored h⟩
  case rolls =>
    obtain ⟨rolls, after, hroll, -⟩ :=
      roll_succeeds hdraw.recording (fun term hterm => (h term hterm).hasFaces) before
    refine ⟨rolls, after, hroll, ?_, ?_, total_map_neg rolls⟩
    · rw [roll_map_neg, run_map, hroll]
      rfl
    · simp only [List.map_map]
      exact List.map_congr_left fun rolled _ => rolled.subtotal_neg
  case parts =>
    intro term hterm
    have hmean := Term.mean_of_halves_le (h term hterm).natAbs_halves_le
    refine ⟨_, hmean, ?_⟩
    rw [Term.mean_neg, hmean]
    rfl
  case running =>
    intro length
    rw [← List.map_take]
    exact mean_mirrored fun term hterm => h term (List.mem_of_mem_take hterm)

/-- The opposite of the least constant is not in range, but mirrors it between dice of both signs. -/
theorem negation_mirrored_least :
    Answers Source.draw ∧
      (∀ term ∈ [Term.dice 2 6, .constant (-0x80000000), .dice (-1) 4], term.WithinMagnitude) ∧
      (∃ rolls after,
        (roll (recording Source.draw) [.dice 2 6, .constant (-0x80000000), .dice (-1) 4]).run.run
            ⟨.script ⟨#[3, 5], 0⟩, []⟩ = (.ok rolls, after) ∧
          (roll (recording Source.draw) [.dice (-2) 6, .constant 0x80000000, .dice 1 4]).run.run
            ⟨.script ⟨#[3, 5], 0⟩, []⟩ = (.ok (rolls.map Rolled.neg), after) ∧
          after.asked = [4, 6, 6] ∧ total (rolls.map Rolled.neg) = -total rolls) ∧
      ∃ halves, mean [.dice 2 6, .constant (-0x80000000), .dice (-1) 4] = .ok (.finite halves) ∧
        mean [.dice (-2) 6, .constant 0x80000000, .dice 1 4] = .ok (.finite (-halves)) := by
  have hterms : ∀ term ∈ [Term.dice 2 6, .constant (-0x80000000), .dice (-1) 4],
      term.WithinMagnitude := by
    decide
  obtain ⟨⟨rolls, after, hroll, hopposite, -, htotal⟩, -, -, hmean⟩ :=
    negation_mirrored answers_source hterms ⟨.script ⟨#[3, 5], 0⟩, []⟩
  have hasked : ((roll (recording Source.draw)
      [.dice 2 6, .constant (-0x80000000), .dice (-1) 4]).run.run
        ⟨.script ⟨#[3, 5], 0⟩, []⟩).2.asked = [4, 6, 6] := by
    decide +kernel
  rw [hroll] at hasked
  exact ⟨answers_source, hterms, ⟨rolls, after, hroll, hopposite, hasked, htotal⟩, hmean⟩

end DiceSum
