import Mathlib.Algebra.BigOperators.Group.List.Basic
import Mathlib.Algebra.Order.BigOperators.Group.List
import Mathlib.Algebra.Order.Ring.Int
import Mathlib.Tactic.Linarith
import Mathlib.Tactic.Ring
import DiceSum.Mean
import DiceSum.Proofs.Rolling.Tape

/-!
# Which totals can be rolled

Dice that add show at least one each and at most their sides; dice that subtract show the same with the
other sign. So a sum has a least and a greatest total, and because every die takes all steps between its
ends, every total between the two can be rolled (`total_reachable_iff`). Nothing wraps around and nothing is
left out, for counts and constants of any size.

A number between two sums of ends is a sum of numbers between the ends (`exists_add_iff`). This is the step
of both inductions, on the dice of a term and on the terms of a sum.
-/

namespace DiceSum

/-- The numbers between two sums of ends are the sums of numbers between the ends. -/
theorem exists_add_iff {low high low' high' t : Int} (h : low ≤ high) (h' : low' ≤ high') :
    (∃ x y, (low ≤ x ∧ x ≤ high) ∧ (low' ≤ y ∧ y ≤ high') ∧ x + y = t) ↔
      low + low' ≤ t ∧ t ≤ high + high' := by
  constructor
  · rintro ⟨x, y, hx, hy, rfl⟩
    omega
  · intro ht
    -- The first number takes as much as it can and leaves the least that the second needs.
    refine ⟨min high (t - low'), t - min high (t - low'), ?_, ?_, ?_⟩ <;> omega

/-- Dice show at least one each. -/
theorem length_le_sum {sides : List Int} (h : ∀ most ∈ sides, 1 ≤ most) :
    (sides.length : Int) ≤ sides.sum := by
  induction sides with
  | nil => exact Int.le_refl 0
  | cons most sides ih =>
    rw [List.forall_mem_cons] at h
    have hrest := ih h.2
    rw [List.length_cons, List.sum_cons]
    omega

/-- Dice can show every sum between one each and all their sides. -/
theorem exists_canShow_sum_iff {sides : List Int} (h : ∀ most ∈ sides, 1 ≤ most) {t : Int} :
    (∃ faces, CanShow sides faces ∧ faces.sum = t) ↔ sides.length ≤ t ∧ t ≤ sides.sum := by
  induction sides generalizing t with
  | nil =>
    simp only [canShow_nil_iff, exists_eq_left, List.sum_nil, List.length_nil]
    omega
  | cons most sides ih =>
    rw [List.forall_mem_cons] at h
    have hsplit : (∃ faces, CanShow (most :: sides) faces ∧ faces.sum = t) ↔
        ∃ x y, (1 ≤ x ∧ x ≤ most) ∧ (∃ faces, CanShow sides faces ∧ faces.sum = y) ∧
          x + y = t := by
      constructor
      · rintro ⟨faces, hfaces, rfl⟩
        obtain ⟨face, rest, hface, hrest, rfl⟩ := canShow_cons_iff.mp hfaces
        exact ⟨face, rest.sum, hface, ⟨rest, hrest, rfl⟩, List.sum_cons.symm⟩
      · rintro ⟨face, _, hface, ⟨rest, hrest, rfl⟩, rfl⟩
        exact ⟨face :: rest, .cons hface hrest, List.sum_cons⟩
    simp only [hsplit, ih h.2]
    rw [exists_add_iff h.1 (length_le_sum h.2), List.length_cons, List.sum_cons]
    omega

namespace Term

/-- The least subtotal of a term. -/
def lowest : Term → Int
  | dice count sides => min count (count * sides)
  | constant value => value

/-- The greatest subtotal of a term. -/
def highest : Term → Int
  | dice count sides => max count (count * sides)
  | constant value => value

/-- The least subtotal of a term is not above its greatest. -/
theorem lowest_le_highest (term : Term) : term.lowest ≤ term.highest := by
  cases term with
  | dice count sides => exact min_le_max
  | constant value => exact Int.le_refl value

/-- The ends of a term lie at the same distance from its mean. -/
theorem lowest_add_highest (term : Term) : term.lowest + term.highest = term.halves := by
  cases term with
  | dice count sides =>
    rw [lowest, highest, min_add_max, halves]
    ring
  | constant value => exact (Int.two_mul value).symm

/-- A term with faces can have every subtotal between its least and its greatest. -/
theorem exists_subtotal_iff {term : Term} (h : term.HasFaces) {t : Int} :
    (∃ faces, CanShow term.asked faces ∧ (term.rolledAs faces).subtotal = t) ↔
      term.lowest ≤ t ∧ t ≤ term.highest := by
  cases term with
  | constant value =>
    simp only [asked, canShow_nil_iff, exists_eq_left, rolledAs, Rolled.subtotal, lowest, highest,
      List.foldr_cons, List.foldr_nil]
    omega
  | dice count sides =>
    have hsides : 1 ≤ sides := h
    have hreach (t : Int) := exists_canShow_sum_iff (one_le_of_mem_asked h) (t := t)
    simp only [asked] at hreach ⊢
    simp only [subtotal_rolledAs_dice, lowest, highest]
    simp only [List.length_replicate, List.sum_replicate, nsmul_eq_mul] at hreach
    by_cases hcount : count < 0
    · have hlow : count * sides ≤ count := by nlinarith
      have hmagnitude : (count.natAbs : Int) = -count := by omega
      simp only [if_pos hcount, neg_eq_iff_eq_neg, hreach, hmagnitude, min_eq_right hlow,
        max_eq_left hlow]
      rw [Int.neg_mul]
      omega
    · have hhigh : count ≤ count * sides := by nlinarith
      have hmagnitude : (count.natAbs : Int) = count := by omega
      simp only [if_neg hcount, hreach, hmagnitude, min_eq_left hhigh, max_eq_right hhigh]

end Term

/-- The least total of a sum. -/
def lowest (terms : List Term) : Int :=
  (terms.map Term.lowest).sum

/-- The greatest total of a sum. -/
def highest (terms : List Term) : Int :=
  (terms.map Term.highest).sum

/-- The least total of terms is not above their greatest. -/
theorem lowest_le_highest (terms : List Term) : lowest terms ≤ highest terms :=
  List.sum_le_sum fun term _ => term.lowest_le_highest

/-- The ends of a sum lie at the same distance from its exact mean. -/
theorem lowest_add_highest (terms : List Term) :
    lowest terms + highest terms = (terms.map Term.halves).sum := by
  rw [lowest, highest, ← List.sum_map_add]
  simp only [Term.lowest_add_highest]

/-- The totals of a sum are the subtotals of its first term added to the totals of the others. -/
theorem exists_total_cons_iff {term : Term} {terms : List Term} {t : Int} :
    (∃ tape rolls, (roll Tape.draw (term :: terms)).run tape = some (rolls, []) ∧
      total rolls = t) ↔
      ∃ x y, (∃ faces, CanShow term.asked faces ∧ (term.rolledAs faces).subtotal = x) ∧
        (∃ tape rolls, (roll Tape.draw terms).run tape = some (rolls, []) ∧ total rolls = y) ∧
        x + y = t := by
  constructor
  · rintro ⟨tape, rolls, hroll, rfl⟩
    obtain ⟨faces, behind, more, hfaces, rfl, hmore, rfl⟩ := run_roll_cons_iff.mp hroll
    exact ⟨_, _, ⟨faces, hfaces, rfl⟩, ⟨behind, more, hmore, rfl⟩, (total_cons _ _).symm⟩
  · rintro ⟨_, _, ⟨faces, hfaces, rfl⟩, ⟨behind, more, hmore, rfl⟩, rfl⟩
    exact ⟨faces ++ behind, _, run_roll_cons_iff.mpr ⟨faces, behind, more, hfaces, rfl, hmore, rfl⟩,
      total_cons _ _⟩

/-- A sum of terms with faces can have every total between its least and its greatest. -/
theorem exists_total_iff {terms : List Term} (h : ∀ term ∈ terms, term.HasFaces) {t : Int} :
    (∃ tape rolls, (roll Tape.draw terms).run tape = some (rolls, []) ∧ total rolls = t) ↔
      lowest terms ≤ t ∧ t ≤ highest terms := by
  induction terms generalizing t with
  | nil =>
    have hnone : (∃ tape rolls, (roll Tape.draw []).run tape = some (rolls, []) ∧
        total rolls = t) ↔ 0 = t := by
      constructor
      · rintro ⟨tape, rolls, hroll, rfl⟩
        obtain ⟨rfl, -⟩ := Prod.mk.inj (Option.some.inj hroll)
        rfl
      · rintro rfl
        exact ⟨[], [], rfl, rfl⟩
    rw [hnone, lowest, highest, List.map_nil, List.map_nil, List.sum_nil]
    omega
  | cons term terms ih =>
    rw [List.forall_mem_cons] at h
    simp only [exists_total_cons_iff, Term.exists_subtotal_iff h.1, ih h.2]
    exact exists_add_iff term.lowest_le_highest (lowest_le_highest terms)

/-- Of a sum of terms with faces, the totals that some sequence of faces leads to are all the integers
between the least and the greatest, and these two add up to twice the exact mean. -/
theorem total_reachable_iff {terms : List Term} (h : ∀ term ∈ terms, term.HasFaces) :
    (∀ t, (∃ tape rolls, (roll Tape.draw terms).run tape = some (rolls, []) ∧ total rolls = t) ↔
      lowest terms ≤ t ∧ t ≤ highest terms) ∧
    lowest terms + highest terms = (terms.map Term.halves).sum :=
  ⟨fun _ => exists_total_iff h, lowest_add_highest terms⟩

/-- Two dice, less three of four sides, less one, can come out at minus eleven, and no lower. -/
theorem total_reachable_iff_mixed :
    (∀ term ∈ [Term.dice 2 6, .dice (-3) 4, .constant (-1)], term.HasFaces) ∧
      (∃ tape rolls, (roll Tape.draw [.dice 2 6, .dice (-3) 4, .constant (-1)]).run tape =
        some (rolls, []) ∧ total rolls = -11) ∧
      ¬ ∃ tape rolls, (roll Tape.draw [.dice 2 6, .dice (-3) 4, .constant (-1)]).run tape =
        some (rolls, []) ∧ total rolls = -12 := by
  have hfaces : ∀ term ∈ [Term.dice 2 6, .dice (-3) 4, .constant (-1)], term.HasFaces := by
    simp [Term.HasFaces]
  have hreach := (total_reachable_iff hfaces).1
  refine ⟨hfaces, (hreach (-11)).mpr (by decide), fun hlower => ?_⟩
  exact absurd ((hreach (-12)).mp hlower) (by decide)

end DiceSum
