import Mathlib.Algebra.Order.Ring.Int
import DiceSum.Mean
import DiceSum.Proofs.Reading.Bounds

/-!
# The mean of terms in range

Powers of two have a single significant bit, so rounding never passes one (`roundToBits_le_pow`). The mean
of a term in range has at most 2 ^ 63 halves and so stays far below the end of the binary64 numbers: terms
that a text can write always have a mean (`mean_of_inBounds`).
-/

namespace DiceSum

/-- Rounding to significant bits is rounding to what the last of them is worth. -/
theorem roundToBits_eq (bits n : Nat) :
    roundToBits bits n = roundToUnit (2 ^ (n.log2 + 1 - bits)) n :=
  rfl

/-- A number is rounded down to the last multiple of the unit up to it, or up to the next multiple. -/
theorem roundToUnit_cases (unit n : Nat) :
    (roundToUnit unit n = n / unit * unit ∧
      (2 * (n % unit) < unit ∨ 2 * (n % unit) = unit ∧ n / unit % 2 = 0)) ∨
    (roundToUnit unit n = (n / unit + 1) * unit ∧
      (unit < 2 * (n % unit) ∨ 2 * (n % unit) = unit ∧ n / unit % 2 = 1)) := by
  unfold roundToUnit
  split
  · rename_i hdown
    exact .inl ⟨rfl, hdown⟩
  · exact .inr ⟨rfl, by omega⟩

/-- Rounding to a multiple of a unit does not pass a multiple of the unit. -/
theorem roundToUnit_le {unit n bound : Nat} (hpos : 0 < unit) (hunit : unit ∣ bound)
    (h : n ≤ bound) : roundToUnit unit n ≤ bound := by
  obtain ⟨c, rfl⟩ := hunit
  have hdiv : unit * (n / unit) + n % unit = n := Nat.div_add_mod n unit
  rcases roundToUnit_cases unit n with ⟨hround, -⟩ | ⟨hround, hup⟩
  · rw [hround, Nat.mul_comm]
    omega
  · have hlt : n / unit < c := by
      apply Nat.lt_of_mul_lt_mul_left (a := unit)
      omega
    rw [hround, Nat.mul_comm]
    exact Nat.mul_le_mul_left unit hlt

/-- Rounding to significant bits does not pass a power of two. -/
theorem roundToBits_le_pow {bits n k : Nat} (hbits : 0 < bits) (h : n ≤ 2 ^ k) :
    roundToBits bits n ≤ 2 ^ k := by
  rw [roundToBits_eq]
  apply roundToUnit_le (Nat.two_pow_pos _) _ h
  apply Nat.pow_dvd_pow
  by_cases hn : n = 0
  · subst hn
    simp
    omega
  · have hlog : n.log2 ≤ k := (Nat.pow_le_pow_iff_right (by decide)).mp
      (Nat.le_trans (Nat.log2_self_le hn) h)
    omega

/-- Rounding to a binary64 number rounds the magnitude. -/
theorem natAbs_roundHalves (halves : Int) :
    (roundHalves halves).natAbs = roundToBits significandBits halves.natAbs := by
  unfold roundHalves
  split
  · rw [Int.natAbs_neg, Int.natAbs_natCast]
  · rw [Int.natAbs_natCast]

/-- Rounding to a binary64 number does not pass a power of two. -/
theorem natAbs_roundHalves_le {halves : Int} {k : Nat} (h : halves.natAbs ≤ 2 ^ k) :
    (roundHalves halves).natAbs ≤ 2 ^ k := by
  rw [natAbs_roundHalves]
  exact roundToBits_le_pow (by decide) h

/-- The small powers of two are in the range of binary64 numbers. -/
theorem two_pow_lt_beyondHalves {k : Nat} (h : k < 1025) : 2 ^ k < beyondHalves := by
  unfold beyondHalves
  apply Nat.pow_lt_pow_right
  · decide
  · exact h

/-- Halves that are few enough make a finite mean. -/
theorem Mean.ofHalves_of_le {halves : Int} {k : Nat} (h : halves.natAbs ≤ 2 ^ k) (hk : k < 1025) :
    Mean.ofHalves halves = .finite (roundHalves halves) := by
  have hlt := Nat.lt_of_le_of_lt (natAbs_roundHalves_le h) (two_pow_lt_beyondHalves hk)
  rw [Mean.ofHalves, if_pos hlt]

/-- Whether the numbers of a term are in range whatever its sign is: the magnitude of the least count is
allowed for counts of both signs, and so for constants. -/
def Term.WithinMagnitude : Term → Prop
  | .dice count sides =>
    count.natAbs ≤ leastSigned.natAbs ∧ 1 ≤ sides ∧ sides ≤ greatestSides
  | .constant value => value.natAbs ≤ leastSigned.natAbs

instance : (term : Term) → Decidable term.WithinMagnitude
  | .dice _ _ => @instDecidableAnd _ _ (Nat.decLe _ _) (inferInstanceAs (Decidable (_ ∧ _)))
  | .constant _ => Nat.decLe _ _

/-- A term in range is in range without its sign. -/
theorem Term.InBounds.withinMagnitude {term : Term} (h : term.InBounds) : term.WithinMagnitude := by
  cases term with
  | dice count sides =>
    obtain ⟨⟨hlow, hhigh⟩, hsides⟩ := h
    refine ⟨?_, hsides⟩
    simp only [leastSigned, greatestSigned] at *
    omega
  | constant value =>
    obtain ⟨hlow, hhigh⟩ := h
    simp only [WithinMagnitude, leastSigned, greatestSigned] at *
    omega

/-- The mean of a term of such a magnitude has at most 2 ^ 63 halves. -/
theorem Term.WithinMagnitude.natAbs_halves_le {term : Term} (h : term.WithinMagnitude) :
    term.halves.natAbs ≤ 2 ^ 63 := by
  cases term with
  | dice count sides =>
    obtain ⟨hcount, hone, hsides⟩ := h
    simp only [leastSigned, greatestSides] at hcount hsides
    rw [Term.halves, Int.natAbs_mul]
    calc count.natAbs * (sides + 1).natAbs
      _ ≤ 2 ^ 31 * 2 ^ 32 := Nat.mul_le_mul (by omega) (by omega)
      _ = 2 ^ 63 := by decide
  | constant value =>
    simp only [WithinMagnitude, leastSigned] at h
    rw [Term.halves]
    omega

/-- The mean of a term in range has at most 2 ^ 63 halves. -/
theorem Term.natAbs_halves_le {term : Term} (h : term.InBounds) : term.halves.natAbs ≤ 2 ^ 63 :=
  h.withinMagnitude.natAbs_halves_le

/-- A term whose rounded mean is finite has that mean. -/
theorem Term.mean_of_finite {term : Term} {halves : Int}
    (h : Mean.ofHalves term.halves = .finite halves) : term.mean = .ok halves := by
  unfold Term.mean
  rw [h]

/-- A term with few halves has a mean. -/
theorem Term.mean_of_halves_le {term : Term} (h : term.halves.natAbs ≤ 2 ^ 63) :
    term.mean = .ok (roundHalves term.halves) := by
  apply Term.mean_of_finite
  exact Mean.ofHalves_of_le h (by decide)

/-- A term in range has a mean. -/
theorem Term.mean_of_inBounds {term : Term} (h : term.InBounds) :
    term.mean = .ok (roundHalves term.halves) :=
  Term.mean_of_halves_le (Term.natAbs_halves_le h)

/-- Rounding the means of terms keeps them within 2 ^ 63 halves. -/
theorem natAbs_rounded_le {terms : List Term} (h : ∀ term ∈ terms, term.halves.natAbs ≤ 2 ^ 63) :
    ∀ part ∈ terms.map fun term => roundHalves term.halves, part.natAbs ≤ 2 ^ 63 := by
  intro part hpart
  obtain ⟨term, hterm, rfl⟩ := List.mem_map.mp hpart
  exact natAbs_roundHalves_le (h term hterm)

/-- A sum of terms that have means adds them up from left to right. -/
theorem mean_of_forall_mean {terms : List Term}
    (h : ∀ term ∈ terms, term.mean = .ok (roundHalves term.halves)) :
    mean terms =
      .ok ((terms.map fun term => roundHalves term.halves).foldl Mean.add (.finite 0)) := by
  have hparts : terms.mapM Term.mean = .ok (terms.map fun term => roundHalves term.halves) := by
    induction terms with
    | nil => rfl
    | cons term rest ih =>
      rw [List.forall_mem_cons] at h
      rw [List.mapM_cons, h.1, ih h.2]
      rfl
  rw [mean, hparts]
  rfl

/-- A sum of terms in range has a mean. -/
theorem mean_of_inBounds {terms : List Term} (h : ∀ term ∈ terms, term.InBounds) :
    mean terms =
      .ok ((terms.map fun term => roundHalves term.halves).foldl Mean.add (.finite 0)) :=
  mean_of_forall_mean fun term hterm => Term.mean_of_inBounds (h term hterm)

end DiceSum
