import DiceSum.Proofs.Mean.Rounding

/-!
# Running sums that stop growing

However many terms a sum has, the mean stays finite. Beyond a power of two, neighbouring binary64 numbers
are so far apart that a summand of at most half that distance is rounded away again: a tie goes back to the
power of two, whose last bit is zero (`roundToBits_le_of_le_add`). The mean of a term in range has at most
2 ^ 63 halves, so no running sum ever passes 2 ^ 116 halves (`foldl_add_bounded`, `mean_bounded`), although
the sum of the exact means has no bound.
-/

namespace DiceSum

/-- From a power of two up to the next one, the power is an even multiple of what the last significant bit
is worth. -/
theorem unitOf_from_pow {bits n k : Nat} (hbits : 2 ≤ bits) (hk : bits ≤ k) (hlow : 2 ^ k ≤ n)
    (hhigh : n < 2 ^ (k + 1)) :
    unitOf bits n = 2 * 2 ^ (k - bits) ∧ 2 ^ k = unitOf bits n * (2 * 2 ^ (bits - 2)) := by
  have hpos : 0 < 2 ^ k := Nat.two_pow_pos k
  have hlog : n.log2 = k := (Nat.log2_eq_iff (by omega)).mpr ⟨hlow, hhigh⟩
  rw [unitOf, hlog]
  constructor
  · rw [← Nat.pow_add_one']
    congr 1
    omega
  · rw [← Nat.pow_add_one', ← Nat.pow_add]
    congr 1
    omega

/-- Rounding to significant bits does not pass a power of two from as far above it as half the distance to
the next number with so many bits. -/
theorem roundToBits_le_of_le_add {bits n k : Nat} (hbits : 2 ≤ bits) (hk : bits ≤ k)
    (h : n ≤ 2 ^ k + 2 ^ (k - bits)) : roundToBits bits n ≤ 2 ^ k := by
  by_cases hlow : n ≤ 2 ^ k
  · exact roundToBits_le_pow (by omega) hlow
  · have hlt : 2 ^ (k - bits) < 2 ^ k := Nat.pow_lt_pow_right (by decide) (by omega)
    have hhigh : n < 2 ^ (k + 1) := by
      rw [Nat.pow_succ]
      omega
    obtain ⟨hunit, hpow⟩ := unitOf_from_pow hbits hk (by omega) hhigh
    have hfits : FitsBits bits (2 ^ k) := fitsBits_two_pow (by omega) k
    have hnear : Nat.dist n (roundToBits bits n) ≤ Nat.dist n (2 ^ k) :=
      roundToBits_nearest (by omega) hfits
    by_contra hpast
    have hreach : 2 ^ k + unitOf bits n ≤ roundToBits bits n :=
      add_le_of_dvd_of_lt (hpow ▸ Nat.dvd_mul_right _ _) (dvd_roundToUnit _ _) (Nat.lt_of_not_le hpast)
    -- only a tie between the power of two and the number next to it is left, and that number is odd
    unfold Nat.dist at hnear
    have hodd : roundToBits bits n = unitOf bits n * (2 * 2 ^ (bits - 2) + 1) := by
      rw [Nat.mul_succ, ← hpow]
      omega
    have htie : Nat.dist n (2 ^ k) = Nat.dist n (roundToBits bits n) := by
      unfold Nat.dist
      omega
    have heven := roundToBits_even (by omega) hfits (by omega) htie
    rw [hodd, Nat.mul_div_cancel_left _ (unitOf_pos bits n)] at heven
    omega

/-- A running sum does not pass a power of two by a summand of at most half the distance to the next
binary64 number. -/
theorem natAbs_roundHalves_add_le {halves more : Int} {k : Nat} (hk : significandBits ≤ k)
    (h : halves.natAbs ≤ 2 ^ k) (hmore : more.natAbs ≤ 2 ^ (k - significandBits)) :
    (roundHalves (halves + more)).natAbs ≤ 2 ^ k := by
  have hsum : (halves + more).natAbs ≤ 2 ^ k + 2 ^ (k - significandBits) := by omega
  rw [natAbs_roundHalves]
  exact roundToBits_le_of_le_add (by decide) hk hsum

/-- An addition to a running sum within the bound is finite, and within the bound again. -/
theorem add_le_bound {k : Nat} (hk : significandBits ≤ k) (hrange : k < 1024) {halves part : Int}
    (h : halves.natAbs ≤ 2 ^ k) (hpart : part.natAbs ≤ 2 ^ (k - significandBits)) :
    Mean.add (.finite halves) part = .finite (roundHalves (halves + part)) ∧
      (roundHalves (halves + part)).natAbs ≤ 2 ^ k := by
  have hsum : (halves + part).natAbs ≤ 2 ^ (k + 1) := by
    have hle : 2 ^ (k - significandBits) ≤ 2 ^ k := Nat.pow_le_pow_right (by decide) (by omega)
    rw [Nat.pow_succ]
    omega
  exact ⟨Mean.ofHalves_of_le hsum (by omega), natAbs_roundHalves_add_le hk h hpart⟩

/-- A running sum of small summands stays finite and within its bound. -/
theorem foldl_add_bounded {k : Nat} (hk : significandBits ≤ k) (hrange : k < 1024)
    {parts : List Int} (h : ∀ part ∈ parts, part.natAbs ≤ 2 ^ (k - significandBits))
    {start : Int} (hstart : start.natAbs ≤ 2 ^ k) :
    ∃ halves, parts.foldl Mean.add (.finite start) = .finite halves ∧ halves.natAbs ≤ 2 ^ k := by
  induction parts generalizing start with
  | nil => exact ⟨start, rfl, hstart⟩
  | cons part rest ih =>
    rw [List.forall_mem_cons] at h
    obtain ⟨hstep, hbound⟩ := add_le_bound hk hrange hstart h.1
    rw [List.foldl_cons, hstep]
    exact ih h.2 hbound

/-- The mean of any number of terms of at most 2 ^ 63 halves is finite, with at most 2 ^ 116 halves. -/
theorem mean_bounded_of_halves_le {terms : List Term}
    (h : ∀ term ∈ terms, term.halves.natAbs ≤ 2 ^ 63) :
    ∃ halves, mean terms = .ok (.finite halves) ∧ halves.natAbs ≤ 2 ^ 116 := by
  have hparts : ∀ part ∈ terms.map fun term => roundHalves term.halves,
      part.natAbs ≤ 2 ^ (116 - significandBits) := natAbs_rounded_le h
  have hstart : (0 : Int).natAbs ≤ 2 ^ 116 := Nat.zero_le _
  obtain ⟨halves, hsum, hle⟩ := foldl_add_bounded (by decide) (by decide) hparts hstart
  have hmean := mean_of_forall_mean fun term hterm => Term.mean_of_halves_le (h term hterm)
  exact ⟨halves, by rw [hmean, hsum], hle⟩

/-- The mean of any number of terms in range is finite, with at most 2 ^ 116 halves. -/
theorem mean_bounded {terms : List Term} (h : ∀ term ∈ terms, term.InBounds) :
    ∃ halves, mean terms = .ok (.finite halves) ∧ halves.natAbs ≤ 2 ^ 116 :=
  mean_bounded_of_halves_le fun term hterm => Term.natAbs_halves_le (h term hterm)

/-- At the bound, the greatest mean of a term in range is rounded away. -/
example : (Term.dice (-0x80000000) 0xffffffff).mean = .ok (-2 ^ 63) ∧
    Mean.add (.finite (-2 ^ 116)) (-2 ^ 63) = .finite (-2 ^ 116) := by
  decide +kernel

end DiceSum
