import Mathlib.Algebra.BigOperators.Group.Finset.Sigma
import Mathlib.Algebra.BigOperators.Intervals
import Mathlib.Algebra.BigOperators.Ring.Finset
import Mathlib.Tactic.LinearCombination
import DiceSum.Mean
import DiceSum.Proofs.Rolling.Tape

/-!
# The mean of all rolls

All sequences of faces that the dice of a sum can show are the tapes that its roll uses up
(`mem_tapes_iff`). Over all of them, the totals are on average what the exact mean of the sum says, term
by term, without looking at any roll (`two_mul_sum_totals`). No probabilities are needed: faces are
counted, and the sum over tapes for two groups of dice is a sum over the tapes of each
(`sum_tapesFor_append`).
-/

namespace DiceSum

/-- The faces of a die. -/
def facesOf (most : Int) : Finset Int :=
  (Finset.range most.toNat).map ⟨fun (n : Nat) => (n : Int) + 1, fun _ _ h => by simpa using h⟩

/-- The faces of a die are the numbers from one to the greatest. -/
theorem mem_facesOf_iff {most face : Int} : face ∈ facesOf most ↔ 1 ≤ face ∧ face ≤ most := by
  rw [facesOf, Finset.mem_map]
  change (∃ n ∈ Finset.range most.toNat, (n : Int) + 1 = face) ↔ _
  simp only [Finset.mem_range]
  constructor
  · rintro ⟨n, hn, rfl⟩
    omega
  · intro hface
    exact ⟨(face - 1).toNat, by omega, by omega⟩

/-- A die has as many faces as sides. -/
theorem card_facesOf {most : Int} (h : 1 ≤ most) : ((facesOf most).card : Int) = most := by
  rw [facesOf, Finset.card_map, Finset.card_range, Int.toNat_of_nonneg (by omega)]

/-- The faces of a die add up to half of the product of its sides and one more. -/
theorem two_mul_sum_facesOf {most : Int} (h : 1 ≤ most) :
    2 * ∑ face ∈ facesOf most, face = most * (most + 1) := by
  obtain ⟨n, rfl⟩ := Int.eq_ofNat_of_zero_le (show 0 ≤ most by omega)
  rw [facesOf, Finset.sum_map]
  change 2 * ∑ k ∈ Finset.range n, ((k : Int) + 1) = _
  clear h
  induction n with
  | zero => rfl
  | succ n ih =>
    rw [Finset.sum_range_succ, Nat.cast_succ]
    linear_combination ih

/-- All faces that dice with these numbers of sides can show, one after another. -/
def tapesFor : List Int → Finset Tape
  | [] => {[]}
  | most :: sides =>
    (facesOf most ×ˢ tapesFor sides).map
      ⟨fun shown => shown.1 :: shown.2, fun _ _ h => Prod.ext (List.cons.inj h).1 (List.cons.inj h).2⟩

/-- The tapes for some dice are those that the dice can show. -/
theorem mem_tapesFor_iff {sides : List Int} {tape : Tape} :
    tape ∈ tapesFor sides ↔ CanShow sides tape := by
  induction sides generalizing tape with
  | nil => simp [tapesFor]
  | cons most sides ih =>
    rw [canShow_cons_iff]
    simp only [tapesFor, Finset.mem_map, Finset.mem_product, mem_facesOf_iff, ih, Prod.exists]
    constructor
    · rintro ⟨face, rest, ⟨hface, hrest⟩, rfl⟩
      exact ⟨face, rest, hface, hrest, rfl⟩
    · rintro ⟨face, rest, hface, hrest, rfl⟩
      exact ⟨face, rest, ⟨hface, hrest⟩, rfl⟩

/-- There are as many tapes as the product of the sides. -/
theorem card_tapesFor {sides : List Int} (h : ∀ most ∈ sides, 1 ≤ most) :
    ((tapesFor sides).card : Int) = sides.prod := by
  induction sides with
  | nil => rfl
  | cons most sides ih =>
    rw [List.forall_mem_cons] at h
    rw [tapesFor, Finset.card_map, Finset.card_product, Nat.cast_mul, ih h.2, List.prod_cons,
      card_facesOf h.1]

/-- A sum over tapes goes through the faces of the first die, and then through the other dice. -/
theorem sum_tapesFor_cons (most : Int) (sides : List Int) (f : Tape → Int) :
    ∑ tape ∈ tapesFor (most :: sides), f tape =
      ∑ face ∈ facesOf most, ∑ rest ∈ tapesFor sides, f (face :: rest) := by
  rw [tapesFor, Finset.sum_map, Finset.sum_product]
  rfl

/-- A sum over tapes goes through the faces of a first group of dice, and then through the others. -/
theorem sum_tapesFor_append (before after : List Int) (f : Tape → Int) :
    ∑ tape ∈ tapesFor (before ++ after), f tape =
      ∑ ahead ∈ tapesFor before, ∑ behind ∈ tapesFor after, f (ahead ++ behind) := by
  induction before generalizing f with
  | nil => simp [tapesFor]
  | cons most sides ih =>
    rw [List.cons_append, sum_tapesFor_cons, sum_tapesFor_cons]
    simp only [ih, List.cons_append]

/-- Two independent summands are each summed as often as there are choices for the other. -/
theorem sum_sum_add {α β : Type} (s : Finset α) (t : Finset β) (f : α → Int) (g : β → Int) :
    ∑ a ∈ s, ∑ b ∈ t, (f a + g b) = t.card * ∑ a ∈ s, f a + s.card * ∑ b ∈ t, g b := by
  simp only [Finset.sum_add_distrib, Finset.sum_const, nsmul_eq_mul, Finset.mul_sum]

/-- The mean of the sum of the faces. -/
theorem two_mul_sum_sums {sides : List Int} (h : ∀ most ∈ sides, 1 ≤ most) :
    2 * ∑ tape ∈ tapesFor sides, tape.sum = sides.prod * (sides.map (· + 1)).sum := by
  induction sides with
  | nil => rfl
  | cons most sides ih =>
    rw [List.forall_mem_cons] at h
    have hfaces := two_mul_sum_facesOf h.1
    have hrest := ih h.2
    rw [sum_tapesFor_cons]
    simp only [List.sum_cons]
    rw [sum_sum_add, card_tapesFor h.2, card_facesOf h.1, List.prod_cons,
      List.map_cons, List.sum_cons]
    linear_combination sides.prod * hfaces + most * hrest

/-- The number of ways in which the dice of a term can fall. -/
def Term.ways : Term → Int
  | dice count sides => sides ^ count.natAbs
  | constant _ => 1

/-- The numbers of sides that a term asks for multiply to the ways in which its dice can fall. -/
theorem Term.prod_asked (term : Term) : term.asked.prod = term.ways := by
  cases term with
  | dice count sides => exact List.prod_replicate _ _
  | constant value => rfl

/-- The mean subtotal of a term, over all ways in which its dice can fall. -/
theorem Term.two_mul_sum_subtotals {term : Term} (h : term.HasFaces) :
    2 * ∑ faces ∈ tapesFor term.asked, (term.rolledAs faces).subtotal =
      term.ways * term.halves := by
  cases term with
  | constant value =>
    simp [Term.asked, tapesFor, Term.rolledAs, Rolled.subtotal, Term.ways, Term.halves]
  | dice count sides =>
    have hsums := two_mul_sum_sums (Term.one_le_of_mem_asked h)
    rw [Term.prod_asked] at hsums
    simp only [Term.subtotal_rolledAs_dice, Term.halves]
    have hmap : ((Term.dice count sides).asked.map (· + 1)).sum = count.natAbs * (sides + 1) := by
      rw [Term.asked, List.map_replicate, List.sum_replicate, nsmul_eq_mul]
    rw [hmap] at hsums
    by_cases hcount : count < 0
    · have hmagnitude : (count.natAbs : Int) = -count := by omega
      simp only [if_pos hcount, Finset.sum_neg_distrib]
      rw [hmagnitude] at hsums
      linear_combination -hsums
    · have hmagnitude : (count.natAbs : Int) = count := by omega
      simp only [if_neg hcount]
      rw [hmagnitude] at hsums
      exact hsums

/-- The tapes that the roll of a sum uses up. -/
def tapes (terms : List Term) : Finset Tape :=
  tapesFor (terms.flatMap Term.asked)

/-- The tapes for terms are those that a roll of the terms uses up. -/
theorem mem_tapes_iff {terms : List Term} {tape : Tape} :
    tape ∈ tapes terms ↔ ∃ rolls, (roll Tape.draw terms).run tape = some (rolls, []) :=
  mem_tapesFor_iff.trans run_roll_ends_iff.symm

/-- The total of a sum that is rolled from a tape; nothing if the tape does not fit. -/
def totalFrom (terms : List Term) (tape : Tape) : Int :=
  ((roll Tape.draw terms).run tape).elim 0 fun result => total result.1

/-- The total from a tape is the subtotal of the first term, and the total from the rest of the tape. -/
theorem totalFrom_cons {term : Term} {terms : List Term} {faces behind : Tape}
    (hfaces : CanShow term.asked faces) (hbehind : behind ∈ tapes terms) :
    totalFrom (term :: terms) (faces ++ behind) =
      (term.rolledAs faces).subtotal + totalFrom terms behind := by
  obtain ⟨more, hmore⟩ := mem_tapes_iff.mp hbehind
  have hroll := run_roll_cons_iff.mpr ⟨faces, behind, more, hfaces, rfl, hmore, rfl⟩
  rw [totalFrom, totalFrom, hroll, hmore]
  exact total_cons _ _

/-- There are as many tapes for terms as there are ways in which all of them can fall. -/
theorem card_tapes {terms : List Term} (h : ∀ term ∈ terms, term.HasFaces) :
    ((tapes terms).card : Int) = (terms.map Term.ways).prod := by
  have hone : ∀ most ∈ terms.flatMap Term.asked, 1 ≤ most := by
    intro most hmost
    obtain ⟨term, hterm, hasked⟩ := List.mem_flatMap.mp hmost
    exact Term.one_le_of_mem_asked (h term hterm) most hasked
  rw [tapes, card_tapesFor hone, List.flatMap, List.prod_flatten, List.map_map]
  exact congrArg List.prod (List.map_congr_left fun term _ => term.prod_asked)

/-- The sum of the totals over all ways in which the dice can fall. -/
theorem two_mul_sum_totalFrom {terms : List Term} (h : ∀ term ∈ terms, term.HasFaces) :
    2 * ∑ tape ∈ tapes terms, totalFrom terms tape =
      (terms.map Term.ways).prod * (terms.map Term.halves).sum := by
  induction terms with
  | nil => rfl
  | cons term terms ih =>
    rw [List.forall_mem_cons] at h
    have hsplit : ∑ tape ∈ tapes (term :: terms), totalFrom (term :: terms) tape =
        ∑ faces ∈ tapesFor term.asked, ∑ behind ∈ tapes terms,
          ((term.rolledAs faces).subtotal + totalFrom terms behind) := by
      rw [tapes, List.flatMap_cons, sum_tapesFor_append]
      exact Finset.sum_congr rfl fun faces hfaces => Finset.sum_congr rfl fun behind hbehind =>
        totalFrom_cons (mem_tapesFor_iff.mp hfaces) hbehind
    have hfirst := Term.two_mul_sum_subtotals h.1
    have hrest := ih h.2
    rw [hsplit, sum_sum_add, card_tapes h.2, card_tapesFor (Term.one_le_of_mem_asked h.1),
      term.prod_asked, List.map_cons, List.map_cons, List.prod_cons, List.sum_cons]
    linear_combination (terms.map Term.ways).prod * hfirst + term.ways * hrest

/-- The totals of a sum of terms with faces, over all sequences of faces that answer the questions of its
roll, have the exact mean of the sum as their mean. There are as many sequences as the product of the sides
of all dice. -/
theorem sum_totals_eq_mean {terms : List Term} (h : ∀ term ∈ terms, term.HasFaces) :
    (∀ tape, tape ∈ tapes terms ↔
      ∃ rolls, (roll Tape.draw terms).run tape = some (rolls, [])) ∧
    ((tapes terms).card : Int) = (terms.map Term.ways).prod ∧
    2 * ∑ tape ∈ tapes terms, totalFrom terms tape =
      (terms.map Term.ways).prod * (terms.map Term.halves).sum :=
  ⟨fun _ => mem_tapes_iff, card_tapes h, two_mul_sum_totalFrom h⟩

/-- Two dice of six sides, less one of four, and two: 144 rolls with a mean of six and a half. -/
theorem sum_totals_eq_mean_mixed :
    (∀ term ∈ [Term.dice 2 6, .dice (-1) 4, .constant 2], term.HasFaces) ∧
      ((tapes [.dice 2 6, .dice (-1) 4, .constant 2]).card : Int) = 144 ∧
      2 * ∑ tape ∈ tapes [.dice 2 6, .dice (-1) 4, .constant 2],
        totalFrom [.dice 2 6, .dice (-1) 4, .constant 2] tape = 144 * 13 := by
  have hfaces : ∀ term ∈ [Term.dice 2 6, .dice (-1) 4, .constant 2], term.HasFaces := by
    simp [Term.HasFaces]
  obtain ⟨-, hcard, hsum⟩ := sum_totals_eq_mean hfaces
  exact ⟨hfaces, hcard, hsum⟩

end DiceSum
