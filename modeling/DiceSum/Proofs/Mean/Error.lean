import Mathlib.Algebra.Order.BigOperators.Group.List
import DiceSum.Proofs.Mean.Stagnation

/-!
# How far the mean is off

One rounding moves a number by at most a fraction 2 ^ -53 of it (`roundHalves_error`). The mean of a term
in range has at most 2 ^ 63 halves, and as many times that as there are terms is a binary64 number itself,
which no running sum passes. So each addition is off by at most 2 ^ 10 halves for each term before it
(`add_bounded`), and the errors add up over the whole sum (`mean_error`).

Past 2 ^ 53 terms, the count times 2 ^ 63 need not be a binary64 number any more. There the running sum is
held by the power of two at which it stops growing, so the length of the sum does not matter.
-/

namespace DiceSum

/-- Rounding is off by as little as the last bit of a significand is worth. -/
theorem roundHalves_error_le {count e : Nat} {halves : Int}
    (h : halves.natAbs ≤ count * 2 ^ (significandBits + e)) :
    (halves - roundHalves halves).natAbs ≤ count * 2 ^ e := by
  apply Nat.le_of_mul_le_mul_right _ (Nat.two_pow_pos significandBits)
  calc (halves - roundHalves halves).natAbs * 2 ^ significandBits
    _ ≤ halves.natAbs := roundHalves_error halves
    _ ≤ count * 2 ^ (significandBits + e) := h
    _ = count * 2 ^ e * 2 ^ significandBits := by rw [Nat.mul_assoc, ← Nat.pow_add, Nat.add_comm e]

/-- So many times a power of two is not passed by rounding, if it is not above the next power of two that
a significand reaches from there. -/
theorem natAbs_roundHalves_le_mul {count e : Nat} {halves : Int} (hcount : count ≤ 2 ^ significandBits)
    (h : halves.natAbs ≤ count * 2 ^ e) : (roundHalves halves).natAbs ≤ count * 2 ^ e := by
  have hlimit : count * 2 ^ e ≤ 2 ^ (significandBits + e) := by
    rw [Nat.pow_add]
    exact Nat.mul_le_mul_right _ hcount
  rw [natAbs_roundHalves]
  exact roundToBits_le_of_fits (by decide) (fitsBits_of_dvd (by decide) (Nat.dvd_mul_left _ _) hlimit) h

/-- An addition to a running sum of so many summands comes as far as one summand more, and is off by a
fraction of that. -/
theorem add_bounded {e count : Nat} (hrange : significandBits + (significandBits + e) < 1024)
    {halves part : Int} (hbound : halves.natAbs ≤ 2 ^ (significandBits + (significandBits + e)))
    (h : halves.natAbs ≤ count * 2 ^ (significandBits + e))
    (hpart : part.natAbs ≤ 2 ^ (significandBits + e)) :
    ∃ next, Mean.add (.finite halves) part = .finite next ∧
      next.natAbs ≤ 2 ^ (significandBits + (significandBits + e)) ∧
      next.natAbs ≤ (count + 1) * 2 ^ (significandBits + e) ∧
      (halves + part - next).natAbs ≤ (count + 1) * 2 ^ e := by
  have hsum : (halves + part).natAbs ≤ (count + 1) * 2 ^ (significandBits + e) := by
    rw [Nat.succ_mul]
    omega
  have hpart' : part.natAbs ≤
      2 ^ (significandBits + (significandBits + e) - significandBits) := by
    rwa [Nat.add_sub_cancel_left]
  obtain ⟨hstep, hnext⟩ := add_le_bound (Nat.le_add_right _ _) hrange hbound hpart'
  refine ⟨roundHalves (halves + part), hstep, hnext, ?_, roundHalves_error_le hsum⟩
  rcases Nat.le_total (count + 1) (2 ^ significandBits) with hfew | hmany
  · exact natAbs_roundHalves_le_mul hfew hsum
  · -- so many summands could come further than the running sum ever does
    rw [Nat.pow_add 2 significandBits (significandBits + e)] at hnext
    exact Nat.le_trans hnext (Nat.mul_le_mul_right _ hmany)

/-- The errors of the additions add up. -/
theorem foldl_add_error {e total : Nat} (hrange : significandBits + (significandBits + e) < 1024)
    {parts : List Int} (hparts : ∀ part ∈ parts, part.natAbs ≤ 2 ^ (significandBits + e))
    {halves : Int} {count : Nat} (hcount : count + parts.length ≤ total)
    (hbound : halves.natAbs ≤ 2 ^ (significandBits + (significandBits + e)))
    (h : halves.natAbs ≤ count * 2 ^ (significandBits + e)) :
    ∃ last, parts.foldl Mean.add (.finite halves) = .finite last ∧
      (halves + parts.sum - last).natAbs ≤ parts.length * (total * 2 ^ e) := by
  induction parts generalizing halves count with
  | nil => exact ⟨halves, rfl, by simp⟩
  | cons part rest ih =>
    rw [List.forall_mem_cons] at hparts
    rw [List.length_cons] at hcount
    obtain ⟨next, hnext, hbound', hcome, herror⟩ := add_bounded hrange hbound h hparts.1
    obtain ⟨last, hlast, hrest⟩ := ih hparts.2 (by omega) hbound' hcome
    have hstep : (count + 1) * 2 ^ e ≤ total * 2 ^ e := Nat.mul_le_mul_right _ (by omega)
    refine ⟨last, by rw [List.foldl_cons, hnext, hlast], ?_⟩
    rw [List.sum_cons, List.length_cons, Nat.succ_mul]
    omega

/-- The rounded means of the terms add up to almost as much as the exact ones. -/
theorem sum_roundHalves_error {e : Nat} {terms : List Term}
    (h : ∀ term ∈ terms, term.halves.natAbs ≤ 2 ^ (significandBits + e)) :
    ((terms.map Term.halves).sum - (terms.map fun term => roundHalves term.halves).sum).natAbs ≤
      terms.length * 2 ^ e := by
  induction terms with
  | nil => simp
  | cons term rest ih =>
    rw [List.forall_mem_cons] at h
    have hone : (term.halves - roundHalves term.halves).natAbs ≤ 1 * 2 ^ e :=
      roundHalves_error_le (by rw [Nat.one_mul]; exact h.1)
    have hrest := ih h.2
    rw [List.map_cons, List.map_cons, List.sum_cons, List.sum_cons, List.length_cons, Nat.succ_mul]
    omega

/-- The mean of n terms in range is within n (n + 1) 2 ^ 10 halves of the exact one. -/
theorem mean_error {terms : List Term} (h : ∀ term ∈ terms, term.InBounds) :
    ∃ halves, mean terms = .ok (.finite halves) ∧
      ((terms.map Term.halves).sum - halves).natAbs ≤ terms.length * (terms.length + 1) * 2 ^ 10 := by
  have hhalves : ∀ term ∈ terms, term.halves.natAbs ≤ 2 ^ (significandBits + 10) :=
    fun term hterm => Term.natAbs_halves_le (h term hterm)
  have hparts : ∀ part ∈ terms.map fun term => roundHalves term.halves,
      part.natAbs ≤ 2 ^ (significandBits + 10) :=
    natAbs_rounded_le fun term hterm => Term.natAbs_halves_le (h term hterm)
  have hcount : 0 + (terms.map fun term => roundHalves term.halves).length ≤ terms.length := by
    rw [List.length_map, Nat.zero_add]
  have hbound : (0 : Int).natAbs ≤ 2 ^ (significandBits + (significandBits + 10)) := Nat.zero_le _
  have hstart : (0 : Int).natAbs ≤ 0 * 2 ^ (significandBits + 10) := Nat.zero_le _
  have hrounded := sum_roundHalves_error hhalves
  obtain ⟨halves, hsum, herror⟩ := foldl_add_error (by decide) hparts hcount hbound hstart
  refine ⟨halves, by rw [mean_of_inBounds h, hsum], ?_⟩
  rw [List.length_map, Int.zero_add] at herror
  rw [Nat.mul_succ, Nat.add_mul, Nat.mul_assoc]
  omega

end DiceSum
