import Mathlib.Algebra.Order.BigOperators.Group.List
import DiceSum.Proofs.Mean.Rounding
import DiceSum.Proofs.Rolling.Answers

/-!
# Sums that are not rounded

Multiples of one power of two are added without rounding as long as no running sum passes what a
significand can count of it. A bound on the magnitudes of all summands together is a bound on every
running sum, in whatever order they come (`AddsExactly`). One addition keeps the bound
(`AddsExactly.merge`), so the whole sum is exact (`mean_eq_sum`, `mean_exact`).

Halves themselves are the smallest such unit. What the terms can come to without their signs is then the
whole condition: up to 2 ^ 53 halves, nothing is rounded on the way to the mean
(`mean_exact_of_weight_le`).
-/

namespace DiceSum

/-- Summands whose running sums are binary64 numbers, in any order: multiples of one power of two, with
magnitudes that add up to no more than a significand can count of it. -/
structure AddsExactly (k : Nat) (parts : List Int) : Prop where
  range : significandBits + k < 1025
  unit : ∀ part ∈ parts, 2 ^ k ∣ part.natAbs
  budget : (parts.map Int.natAbs).sum ≤ 2 ^ (significandBits + k)

namespace AddsExactly

variable {k : Nat} {parts other : List Int}

/-- The bound does not depend on the order of the summands. -/
theorem perm (h : AddsExactly k parts) (hperm : parts.Perm other) : AddsExactly k other where
  range := h.range
  unit part hpart := h.unit part (hperm.mem_iff.mpr hpart)
  budget := (hperm.map Int.natAbs).sum_eq ▸ h.budget

/-- A summand of zero changes nothing. -/
theorem zero_cons (h : AddsExactly k parts) : AddsExactly k (0 :: parts) where
  range := h.range
  unit := List.forall_mem_cons.mpr ⟨Nat.dvd_zero _, h.unit⟩
  budget := by
    rw [List.map_cons, List.sum_cons, Int.natAbs_zero, Nat.zero_add]
    exact h.budget

/-- One addition in place of its two summands. -/
theorem merge {first second : Int} (h : AddsExactly k (first :: second :: parts)) :
    AddsExactly k ((first + second) :: parts) where
  range := h.range
  unit := by
    have hunit := h.unit
    simp only [List.forall_mem_cons, ← Int.natCast_dvd] at hunit ⊢
    exact ⟨Int.dvd_add hunit.1 hunit.2.1, hunit.2.2⟩
  budget := by
    have hbudget := h.budget
    simp only [List.map_cons, List.sum_cons] at hbudget ⊢
    omega

/-- Each summand alone is within the bound of all of them. -/
theorem natAbs_le {part : Int} (h : AddsExactly k parts) (hpart : part ∈ parts) :
    part.natAbs ≤ 2 ^ (significandBits + k) :=
  Nat.le_trans (List.le_sum_of_mem (List.mem_map_of_mem hpart)) h.budget

/-- The summands themselves are not rounded. -/
theorem roundHalves_eq {part : Int} (h : AddsExactly k parts) (hpart : part ∈ parts) :
    roundHalves part = part :=
  roundHalves_of_fits (fitsBits_of_dvd (by decide) (h.unit part hpart) (h.natAbs_le hpart))

/-- No running sum is rounded. -/
theorem foldl_add {start : Int} (h : AddsExactly k (start :: parts)) :
    parts.foldl Mean.add (.finite start) = .finite (start + parts.sum) := by
  induction parts generalizing start with
  | nil => rw [List.foldl_nil, List.sum_nil, Int.add_zero]
  | cons part rest ih =>
    have hfinite : Mean.add (.finite start) part = .finite (roundHalves (start + part)) :=
      Mean.ofHalves_of_le (h.merge.natAbs_le List.mem_cons_self) h.range
    rw [List.foldl_cons, hfinite, h.merge.roundHalves_eq List.mem_cons_self, ih h.merge, List.sum_cons,
      Int.add_assoc]

/-- The first summands alone are added without rounding, too. -/
theorem of_append (h : AddsExactly k (parts ++ other)) : AddsExactly k parts where
  range := h.range
  unit part hpart := h.unit part (List.mem_append_left other hpart)
  budget := by
    have hbudget := h.budget
    rw [List.map_append, List.sum_append] at hbudget
    omega

/-- The addition of a last summand is not rounded. -/
theorem add_last {part : Int} (h : AddsExactly k (parts ++ [part])) :
    Mean.add (.finite parts.sum) part = .finite (parts.sum + part) := by
  have hfront := h.of_append.zero_cons.foldl_add
  have hwhole := h.zero_cons.foldl_add
  rw [List.foldl_append, hfront, List.foldl_cons, List.foldl_nil, List.sum_append,
    List.sum_singleton] at hwhole
  simpa only [Int.zero_add] using hwhole

end AddsExactly

/-- If the rounded means of the terms add up without rounding, the mean of the sum is their sum. -/
theorem mean_eq_sum {k : Nat} {terms : List Term}
    (h : AddsExactly k (terms.map fun term => roundHalves term.halves)) :
    mean terms = .ok (.finite (terms.map fun term => roundHalves term.halves).sum) := by
  have hmean : ∀ term ∈ terms, term.mean = .ok (roundHalves term.halves) := by
    intro term hterm
    have hlt : (roundHalves term.halves).natAbs < beyondHalves :=
      Nat.lt_of_le_of_lt (h.natAbs_le (List.mem_map_of_mem hterm)) (two_pow_lt_beyondHalves h.range)
    apply Term.mean_of_finite
    rw [Mean.ofHalves, if_pos hlt]
  rw [mean_of_forall_mean hmean, h.zero_cons.foldl_add, Int.zero_add]

/-- If the exact means of the terms add up without rounding, nothing is rounded at all. -/
theorem mean_exact {k : Nat} {terms : List Term} (h : AddsExactly k (terms.map Term.halves)) :
    mean terms = .ok (.finite (terms.map Term.halves).sum) := by
  have hsame : (terms.map fun term => roundHalves term.halves) = terms.map Term.halves :=
    List.map_congr_left fun term hterm => h.roundHalves_eq (List.mem_map_of_mem hterm)
  rw [← hsame] at h ⊢
  exact mean_eq_sum h

/-- The halves that a term adds to a mean, without their sign. -/
def Term.weight : Term → Int
  | dice count sides => count.natAbs * (sides + 1)
  | constant value => 2 * value.natAbs

/-- The weight of a term with faces is the magnitude of its exact mean. -/
theorem Term.weight_eq {term : Term} (h : term.HasFaces) : term.weight = term.halves.natAbs := by
  cases term with
  | dice count sides =>
    have hsides : 0 < sides := h
    have hfaces : ((sides + 1).natAbs : Int) = sides + 1 := Int.natAbs_of_nonneg (by omega)
    rw [weight, halves, Int.natAbs_mul, Nat.cast_mul, hfaces]
  | constant value =>
    rw [weight, halves]
    omega

/-- The weights of terms with faces add up to the magnitudes of their exact means. -/
theorem sum_weights {terms : List Term} (h : ∀ term ∈ terms, term.HasFaces) :
    (terms.map Term.weight).sum = ((terms.map Term.halves).map Int.natAbs).sum := by
  induction terms with
  | nil => rfl
  | cons term rest ih =>
    rw [List.forall_mem_cons] at h
    simp only [List.map_cons, List.sum_cons, Nat.cast_add]
    rw [Term.weight_eq h.1, ih h.2]

/-- Halves within the limit of a significand add up without rounding. -/
theorem addsExactly_of_weight_le {terms : List Term} (hfaces : ∀ term ∈ terms, term.HasFaces)
    (h : (terms.map Term.weight).sum ≤ 2 ^ 53) : AddsExactly 0 (terms.map Term.halves) where
  range := by decide
  unit _ _ := Nat.one_dvd _
  budget := by
    rw [sum_weights hfaces] at h
    rw [significandBits]
    omega

/-- If terms with faces have a weight of at most 2 ^ 53 in all, nothing is rounded on the way to their mean:
not the mean of a term, no running sum, and no addition to one. So the mean is the exact one. -/
theorem mean_exact_of_weight_le {terms : List Term} (hfaces : ∀ term ∈ terms, term.HasFaces)
    (h : (terms.map Term.weight).sum ≤ 2 ^ 53) :
    (∀ term ∈ terms, term.mean = .ok term.halves) ∧
    (∀ before term after, terms = before ++ term :: after →
      mean before = .ok (.finite (before.map Term.halves).sum) ∧
      Mean.add (.finite (before.map Term.halves).sum) term.halves =
        .finite ((before.map Term.halves).sum + term.halves)) ∧
    mean terms = .ok (.finite (terms.map Term.halves).sum) := by
  have hexact := addsExactly_of_weight_le hfaces h
  refine ⟨?_, ?_, mean_exact hexact⟩
  · intro term hterm
    have hpart := List.mem_map_of_mem (f := Term.halves) hterm
    apply Term.mean_of_finite
    rw [Mean.ofHalves_of_le (hexact.natAbs_le hpart) hexact.range, hexact.roundHalves_eq hpart]
  · intro before term after hterms
    rw [hterms, ← List.singleton_append, ← List.append_assoc, List.map_append] at hexact
    have hlast := hexact.of_append
    rw [List.map_append] at hlast
    exact ⟨mean_exact hlast.of_append, hlast.add_last⟩

/-- The limit itself is kept: 2 ^ 21 - 1 dice with 2 ^ 32 - 1 sides and two constants weigh 2 ^ 53 in all.
-/
theorem mean_exact_of_weight_le_limit :
    (∀ term ∈ [Term.dice 0x1fffff 0xffffffff, .constant 0x7fffffff, .constant 1], term.HasFaces) ∧
      ([Term.dice 0x1fffff 0xffffffff, .constant 0x7fffffff, .constant 1].map Term.weight).sum =
        2 ^ 53 ∧
      mean [.dice 0x1fffff 0xffffffff, .constant 0x7fffffff, .constant 1] =
        .ok (.finite (2 ^ 53)) := by
  have hfaces : ∀ term ∈ [Term.dice 0x1fffff 0xffffffff, .constant 0x7fffffff, .constant 1],
      term.HasFaces := by
    simp [Term.HasFaces]
  have hweight : ([Term.dice 0x1fffff 0xffffffff, .constant 0x7fffffff, .constant 1].map
      Term.weight).sum = 2 ^ 53 := by
    decide
  have hmean := (mean_exact_of_weight_le hfaces hweight.le).2.2
  exact ⟨hfaces, hweight, hmean⟩

end DiceSum
