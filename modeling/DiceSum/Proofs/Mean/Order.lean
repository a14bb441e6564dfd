import DiceSum.Proofs.Mean.Error
import DiceSum.Proofs.Mean.Exact

/-!
# The order of the terms

Sums of integers do not depend on the order of their terms; sums of rounded means may. A term can be
rounded away in one order that another order keeps (`mean_order_matters`). Where the rounded means of
terms in range are multiples of one power of two and their magnitudes do not come further than a
significand can count of it, no order rounds anything, so the order does not matter. In any case both
orders stay within the error of the mean, so they cannot be further apart than twice the error
(`mean_perm`). The first two terms may always change places, as one addition is the same both ways
(`mean_swap`).
-/

namespace DiceSum

variable {terms other : List Term}

/-- If the rounded means of the terms add up without rounding, they do so in any order. -/
theorem mean_eq_of_perm {k : Nat} (h : AddsExactly k (terms.map fun term => roundHalves term.halves))
    (hperm : terms.Perm other) : mean terms = mean other := by
  have hparts := hperm.map fun term => roundHalves term.halves
  rw [mean_eq_sum h, mean_eq_sum (h.perm hparts), hparts.sum_eq]

/-- Multiples of a power of two that do not come further than a significand can count of it add up without
rounding, if each of them has at most 2 ^ 63 halves. -/
theorem exists_addsExactly {k : Nat} {parts : List Int} (h : ∀ part ∈ parts, part.natAbs ≤ 2 ^ 63)
    (hunit : ∀ part ∈ parts, 2 ^ k ∣ part.natAbs)
    (hbudget : (parts.map Int.natAbs).sum ≤ 2 ^ (significandBits + k)) :
    ∃ e, AddsExactly e parts := by
  rcases Nat.lt_or_ge 63 k with hlarge | hsmall
  · -- no multiple of so large a unit is within the bound, apart from zero
    have hpow : 2 ^ 63 < 2 ^ k := Nat.pow_lt_pow_right (by decide) hlarge
    have hzero : ∀ magnitude ∈ parts.map Int.natAbs, magnitude = 0 := by
      intro magnitude hmem
      obtain ⟨part, hpart, rfl⟩ := List.mem_map.mp hmem
      exact Nat.eq_zero_of_dvd_of_lt (hunit part hpart) (Nat.lt_of_le_of_lt (h part hpart) hpow)
    refine ⟨0, by decide, fun _ _ => Nat.one_dvd _, ?_⟩
    rw [List.sum_eq_zero hzero]
    exact Nat.zero_le _
  · refine ⟨k, ?_, hunit, hbudget⟩
    rw [significandBits]
    omega

/-- In two orders, the means of terms in range are within twice the error of a mean. -/
theorem mean_perm_error (h : ∀ term ∈ terms, term.InBounds) (hperm : terms.Perm other) :
    ∃ halves halves', mean terms = .ok (.finite halves) ∧ mean other = .ok (.finite halves') ∧
      (halves - halves').natAbs ≤ 2 * (terms.length * (terms.length + 1) * 2 ^ 10) := by
  have hother : ∀ term ∈ other, term.InBounds := fun term hterm => h term (hperm.mem_iff.mpr hterm)
  obtain ⟨halves, hmean, herror⟩ := mean_error h
  obtain ⟨halves', hmean', herror'⟩ := mean_error hother
  refine ⟨halves, halves', hmean, hmean', ?_⟩
  rw [← hperm.length_eq, ← (hperm.map Term.halves).sum_eq] at herror'
  omega

/-- The mean of terms in range is the same in any order, if their rounded means are multiples of a power
of two whose magnitudes add up to no more than a significand can count of it. In any case the mean of n
terms in range is finite in any two orders, which differ by at most 2 n (n + 1) 2 ^ 10 halves. -/
theorem mean_perm (h : ∀ term ∈ terms, term.InBounds) (hperm : terms.Perm other) :
    (∀ k, (∀ term ∈ terms, 2 ^ k ∣ (roundHalves term.halves).natAbs) →
      (terms.map fun term => (roundHalves term.halves).natAbs).sum ≤ 2 ^ (significandBits + k) →
      mean terms = mean other) ∧
    ∃ halves halves', mean terms = .ok (.finite halves) ∧ mean other = .ok (.finite halves') ∧
      (halves - halves').natAbs ≤ 2 * (terms.length * (terms.length + 1) * 2 ^ 10) := by
  refine ⟨?_, mean_perm_error h hperm⟩
  intro k hunit hbudget
  have hparts := natAbs_rounded_le fun term hterm => Term.natAbs_halves_le (h term hterm)
  have hunit' : ∀ part ∈ terms.map fun term => roundHalves term.halves, 2 ^ k ∣ part.natAbs :=
    List.forall_mem_map.mpr hunit
  have hbudget' : ((terms.map fun term => roundHalves term.halves).map Int.natAbs).sum ≤
      2 ^ (significandBits + k) := by
    rwa [List.map_map]
  obtain ⟨e, hexact⟩ := exists_addsExactly hparts hunit' hbudget'
  exact mean_eq_of_perm hexact hperm

/-- A constant of 1024 is kept between large dice that cancel each other, as all three are multiples of
2 ^ 11 halves. -/
theorem mean_perm_large :
    (∀ term ∈ [Term.dice 0x40000000 0xffffffff, .constant 1024, .dice (-0x40000000) 0xffffffff],
        term.InBounds) ∧
      [Term.dice 0x40000000 0xffffffff, .constant 1024, .dice (-0x40000000) 0xffffffff].Perm
        [.dice 0x40000000 0xffffffff, .dice (-0x40000000) 0xffffffff, .constant 1024] ∧
      mean [.dice 0x40000000 0xffffffff, .constant 1024, .dice (-0x40000000) 0xffffffff] =
        mean [.dice 0x40000000 0xffffffff, .dice (-0x40000000) 0xffffffff, .constant 1024] := by
  have hbounds : ∀ term ∈ [Term.dice 0x40000000 0xffffffff, .constant 1024,
      .dice (-0x40000000) 0xffffffff], term.InBounds := by
    decide +kernel
  have hperm : [Term.dice 0x40000000 0xffffffff, .constant 1024, .dice (-0x40000000) 0xffffffff].Perm
      [.dice 0x40000000 0xffffffff, .dice (-0x40000000) 0xffffffff, .constant 1024] := by
    decide
  exact ⟨hbounds, hperm, (mean_perm hbounds hperm).1 11 (by decide +kernel) (by decide +kernel)⟩

/-- A constant of one is rounded away between large dice that cancel each other, and kept behind them: the
two orders have the means 0 and 1. -/
theorem mean_order_matters :
    (∀ term ∈ [Term.dice 0x40000000 0xffffffff, .constant 1, .dice (-0x40000000) 0xffffffff],
        term.InBounds) ∧
      [Term.dice 0x40000000 0xffffffff, .constant 1, .dice (-0x40000000) 0xffffffff].Perm
        [.dice 0x40000000 0xffffffff, .dice (-0x40000000) 0xffffffff, .constant 1] ∧
      mean [.dice 0x40000000 0xffffffff, .constant 1, .dice (-0x40000000) 0xffffffff] =
        .ok (.finite 0) ∧
      mean [.dice 0x40000000 0xffffffff, .dice (-0x40000000) 0xffffffff, .constant 1] =
        .ok (.finite 2) := by
  decide +kernel

/-- A running sum starts with its first summand. -/
theorem add_zero_rounded {term : Term} (h : term.InBounds) :
    Mean.add (.finite 0) (roundHalves term.halves) = .finite (roundHalves term.halves) := by
  have hle := natAbs_roundHalves_le (Term.natAbs_halves_le h)
  rw [Mean.add, Int.zero_add, Mean.ofHalves_of_le hle (by decide), roundHalves_roundHalves]

/-- The first two terms may change places. -/
theorem mean_swap {first second : Term} {rest : List Term}
    (h : ∀ term ∈ first :: second :: rest, term.InBounds) :
    mean (first :: second :: rest) = mean (second :: first :: rest) := by
  have hswap : ∀ term ∈ second :: first :: rest, term.InBounds := fun term hterm =>
    h term ((List.Perm.swap second first rest).mem_iff.mpr hterm)
  rw [mean_of_inBounds h, mean_of_inBounds hswap]
  simp only [List.forall_mem_cons] at h
  simp only [List.map_cons, List.foldl_cons]
  rw [add_zero_rounded h.1, add_zero_rounded h.2.1, Mean.add, Mean.add, Int.add_comm]

end DiceSum
