import Mathlib.Data.Nat.Dist
import DiceSum.Proofs.Mean.Range

/-!
# Rounding to the nearest number

Rounding is defined by what it computes: a unit, a quotient and a comparison. Here it is tied to what it
is for. The rounded number has few enough significant bits (`fitsBits_roundToBits`), no number with so few
bits is nearer (`roundToBits_nearest`), and if another one is just as near, the last bit of the rounded
one is zero (`roundToBits_even`). So a number that has few enough bits already is not changed
(`roundToBits_of_fits`), and any other number is moved by at most a small fraction of it
(`roundToBits_error`). Both signs are rounded alike, and the same holds of means (`roundHalves_nearest`,
`roundHalves_error`).

A number with few enough bits is either a multiple of the unit or below the leading power of two, which is a
multiple of the unit itself (`FitsBits.dvd_or_farther`). So only multiples of the unit compete.
-/

namespace DiceSum

/-- A number with at most so many significant bits. -/
def FitsBits (bits n : Nat) : Prop :=
  ∃ significand exponent, significand < 2 ^ bits ∧ n = significand * 2 ^ exponent

/-- What the last of so many significant bits of a number is worth. -/
def unitOf (bits n : Nat) : Nat :=
  2 ^ (n.log2 + 1 - bits)

/-- The last significant bit of a number is worth something. -/
theorem unitOf_pos (bits n : Nat) : 0 < unitOf bits n :=
  Nat.two_pow_pos _

/-- Two multiples of a unit are at least the unit apart. -/
theorem add_le_of_dvd_of_lt {unit m next : Nat} (hm : unit ∣ m) (hnext : unit ∣ next) (h : m < next) :
    m + unit ≤ next := by
  have hle : unit ≤ next - m := Nat.le_of_dvd (Nat.sub_pos_of_lt h) (Nat.dvd_sub hnext hm)
  omega

/-- A multiple of a unit is not above the last multiple up to a number, or not below the next one. -/
theorem le_or_le_of_dvd {unit m : Nat} (n : Nat) (h : unit ∣ m) :
    m ≤ n / unit * unit ∨ n / unit * unit + unit ≤ m := by
  rcases Nat.lt_or_ge (n / unit * unit) m with habove | hbelow
  · exact .inr (add_le_of_dvd_of_lt (Nat.dvd_mul_left unit _) h habove)
  · exact .inl hbelow

/-- A rounded number is a multiple of the unit. -/
theorem dvd_roundToUnit (unit n : Nat) : unit ∣ roundToUnit unit n := by
  rcases roundToUnit_cases unit n with ⟨hround, -⟩ | ⟨hround, -⟩ <;> rw [hround]
  · exact Nat.dvd_mul_left unit _
  · exact Nat.dvd_mul_left unit _

/-- No multiple of the unit is nearer than the rounded number. -/
theorem roundToUnit_nearest {unit n m : Nat} (hpos : 0 < unit) (h : unit ∣ m) :
    Nat.dist n (roundToUnit unit n) ≤ Nat.dist n m := by
  have hsplit : n / unit * unit + n % unit = n := Nat.div_add_mod' n unit
  have hrest : n % unit < unit := Nat.mod_lt n hpos
  have hm := le_or_le_of_dvd n h
  unfold Nat.dist
  rcases roundToUnit_cases unit n with ⟨hround, hdown⟩ | ⟨hround, hup⟩ <;> rw [hround]
  · omega
  · rw [Nat.succ_mul]
    omega

/-- If another multiple of the unit is as near as the rounded number, the rounded number is an even
multiple. -/
theorem roundToUnit_even {unit n m : Nat} (hpos : 0 < unit) (h : unit ∣ m)
    (hne : m ≠ roundToUnit unit n) (htie : Nat.dist n m = Nat.dist n (roundToUnit unit n)) :
    roundToUnit unit n / unit % 2 = 0 := by
  have hsplit : n / unit * unit + n % unit = n := Nat.div_add_mod' n unit
  have hrest : n % unit < unit := Nat.mod_lt n hpos
  have hm := le_or_le_of_dvd n h
  unfold Nat.dist at htie
  rcases roundToUnit_cases unit n with ⟨hround, hdown⟩ | ⟨hround, hup⟩ <;>
    rw [hround] at hne htie ⊢ <;> rw [Nat.mul_div_cancel _ hpos]
  · omega
  · rw [Nat.succ_mul] at hne htie
    omega

/-- The leading power of two of a number is a multiple of what its last significant bit is worth. -/
theorem unitOf_dvd_leading {bits : Nat} (hbits : 0 < bits) (n : Nat) :
    unitOf bits n ∣ 2 ^ n.log2 :=
  Nat.pow_dvd_pow 2 (by omega)

/-- A number with few enough significant bits is a multiple of the unit, or farther away than the rounded
number. -/
theorem FitsBits.dvd_or_farther {bits m : Nat} (hbits : 0 < bits) (n : Nat) (h : FitsBits bits m) :
    unitOf bits n ∣ m ∨ Nat.dist n (roundToBits bits n) < Nat.dist n m := by
  obtain ⟨significand, exponent, hlt, rfl⟩ := h
  rcases Nat.lt_or_ge exponent (n.log2 + 1 - bits) with hlow | hhigh
  · right
    have hn : n ≠ 0 := by
      rintro rfl
      rw [Nat.log2_zero] at hlow
      omega
    have hle : 2 ^ n.log2 ≤ n := Nat.log2_self_le hn
    have hbelow : significand * 2 ^ exponent < 2 ^ n.log2 :=
      calc significand * 2 ^ exponent
        _ < 2 ^ bits * 2 ^ exponent := Nat.mul_lt_mul_of_pos_right hlt (Nat.two_pow_pos exponent)
        _ = 2 ^ (bits + exponent) := (Nat.pow_add 2 bits exponent).symm
        _ ≤ 2 ^ n.log2 := Nat.pow_le_pow_right (by decide) (by omega)
    have hcloser : Nat.dist n (2 ^ n.log2) < Nat.dist n (significand * 2 ^ exponent) := by
      unfold Nat.dist
      omega
    exact Nat.lt_of_le_of_lt
      (roundToUnit_nearest (unitOf_pos bits n) (unitOf_dvd_leading hbits n)) hcloser
  · left
    exact Nat.dvd_mul_left_of_dvd (Nat.pow_dvd_pow 2 hhigh) significand

/-- A power of two has a single significant bit. -/
theorem fitsBits_two_pow {bits : Nat} (hbits : 0 < bits) (k : Nat) : FitsBits bits (2 ^ k) :=
  ⟨1, k, Nat.one_lt_two_pow (by omega), (Nat.one_mul _).symm⟩

/-- A multiple of a unit has few enough significant bits, up to the power of two that they reach. -/
theorem fitsBits_of_dvd {bits k n : Nat} (hbits : 0 < bits) (hunit : 2 ^ k ∣ n)
    (h : n ≤ 2 ^ (bits + k)) : FitsBits bits n := by
  obtain ⟨c, rfl⟩ := hunit
  have hle : c ≤ 2 ^ bits := by
    apply Nat.le_of_mul_le_mul_left _ (Nat.two_pow_pos k)
    rwa [← Nat.pow_add, Nat.add_comm k]
  rcases Nat.lt_or_eq_of_le hle with hlt | rfl
  · exact ⟨c, k, hlt, Nat.mul_comm _ _⟩
  · rw [← Nat.pow_add]
    exact fitsBits_two_pow hbits (k + bits)

/-- The rounded number has few enough significant bits. -/
theorem fitsBits_roundToBits {bits : Nat} (hbits : 0 < bits) (n : Nat) :
    FitsBits bits (roundToBits bits n) := by
  have hdvd : unitOf bits n ∣ roundToBits bits n := dvd_roundToUnit _ _
  apply fitsBits_of_dvd hbits hdvd
  calc roundToBits bits n
    _ ≤ 2 ^ (n.log2 + 1) := roundToBits_le_pow hbits (Nat.le_of_lt Nat.lt_log2_self)
    _ ≤ 2 ^ (bits + (n.log2 + 1 - bits)) := Nat.pow_le_pow_right (by decide) (by omega)

/-- No number with few enough significant bits is nearer than the rounded number. -/
theorem roundToBits_nearest {bits n m : Nat} (hbits : 0 < bits) (h : FitsBits bits m) :
    Nat.dist n (roundToBits bits n) ≤ Nat.dist n m := by
  rcases h.dvd_or_farther hbits n with hdvd | hfarther
  · exact roundToUnit_nearest (unitOf_pos bits n) hdvd
  · exact Nat.le_of_lt hfarther

/-- If another number with few enough significant bits is as near as the rounded number, the last bit of
the rounded number is zero. -/
theorem roundToBits_even {bits n m : Nat} (hbits : 0 < bits) (h : FitsBits bits m)
    (hne : m ≠ roundToBits bits n) (htie : Nat.dist n m = Nat.dist n (roundToBits bits n)) :
    roundToBits bits n / unitOf bits n % 2 = 0 := by
  rcases h.dvd_or_farther hbits n with hdvd | hfarther
  · exact roundToUnit_even (unitOf_pos bits n) hdvd hne htie
  · exact absurd htie (Nat.ne_of_gt hfarther)

/-- A number that has few enough significant bits already is not changed. -/
theorem roundToBits_of_fits {bits n : Nat} (hbits : 0 < bits) (h : FitsBits bits n) :
    roundToBits bits n = n := by
  have hdist : Nat.dist n (roundToBits bits n) ≤ Nat.dist n n := roundToBits_nearest hbits h
  rw [Nat.dist_self] at hdist
  exact (Nat.eq_of_dist_eq_zero (Nat.le_zero.mp hdist)).symm

/-- Rounding does not pass a number that has few enough bits. -/
theorem roundToBits_le_of_fits {bits n m : Nat} (hbits : 0 < bits) (h : FitsBits bits m)
    (hle : n ≤ m) : roundToBits bits n ≤ m := by
  have hnear : Nat.dist n (roundToBits bits n) ≤ Nat.dist n m := roundToBits_nearest hbits h
  unfold Nat.dist at hnear
  omega

/-- Rounding to a multiple of a unit moves a number by at most half the unit. -/
theorem roundToUnit_error {unit : Nat} (hpos : 0 < unit) (n : Nat) :
    2 * Nat.dist n (roundToUnit unit n) ≤ unit := by
  have hsplit : n / unit * unit + n % unit = n := Nat.div_add_mod' n unit
  have hrest : n % unit < unit := Nat.mod_lt n hpos
  unfold Nat.dist
  rcases roundToUnit_cases unit n with ⟨hround, hdown⟩ | ⟨hround, hup⟩ <;> rw [hround]
  · omega
  · rw [Nat.succ_mul (n / unit)]
    omega

/-- Rounding to significant bits moves a number by a small fraction of it. -/
theorem roundToBits_error {bits : Nat} (hbits : 0 < bits) (n : Nat) :
    Nat.dist n (roundToBits bits n) * 2 ^ bits ≤ n := by
  rcases Nat.lt_or_ge n (2 ^ bits) with hfew | hmany
  · have hfits : FitsBits bits n := ⟨n, 0, hfew, (Nat.mul_one n).symm⟩
    rw [roundToBits_of_fits hbits hfits, Nat.dist_self, Nat.zero_mul]
    exact Nat.zero_le n
  · have hn : n ≠ 0 := by
      have hpow : 0 < 2 ^ bits := Nat.two_pow_pos bits
      omega
    have hlog : bits ≤ n.log2 := (Nat.le_log2 hn).mpr hmany
    have herror : 2 * Nat.dist n (roundToBits bits n) ≤ unitOf bits n :=
      roundToUnit_error (unitOf_pos bits n) n
    calc Nat.dist n (roundToBits bits n) * 2 ^ bits
      _ = 2 * Nat.dist n (roundToBits bits n) * 2 ^ (bits - 1) := by
        rw [Nat.mul_comm 2, Nat.mul_assoc, ← Nat.pow_add_one', Nat.sub_add_cancel hbits]
      _ ≤ unitOf bits n * 2 ^ (bits - 1) := Nat.mul_le_mul_right _ herror
      _ = 2 ^ n.log2 := by
        rw [unitOf, ← Nat.pow_add]
        congr 1
        omega
      _ ≤ n := Nat.log2_self_le hn

/-- No binary64 number is nearer to so many halves than the rounded mean. -/
theorem roundHalves_nearest {halves other : Int} (h : FitsBits significandBits other.natAbs) :
    (halves - roundHalves halves).natAbs ≤ (halves - other).natAbs := by
  have hnear : Nat.dist halves.natAbs (roundToBits significandBits halves.natAbs) ≤
      Nat.dist halves.natAbs other.natAbs := roundToBits_nearest (by decide) h
  unfold Nat.dist at hnear
  unfold roundHalves
  split <;> omega

/-- Halves that are a binary64 number already are not changed. -/
theorem roundHalves_of_fits {halves : Int} (h : FitsBits significandBits halves.natAbs) :
    roundHalves halves = halves := by
  have hnear : (halves - roundHalves halves).natAbs ≤ (halves - halves).natAbs :=
    roundHalves_nearest h
  omega

/-- Rounding once more changes nothing. -/
theorem roundHalves_roundHalves (halves : Int) : roundHalves (roundHalves halves) = roundHalves halves := by
  apply roundHalves_of_fits
  rw [natAbs_roundHalves]
  exact fitsBits_roundToBits (by decide) halves.natAbs

/-- Rounding to a binary64 number moves it by a small fraction of it. -/
theorem roundHalves_error (halves : Int) :
    (halves - roundHalves halves).natAbs * 2 ^ significandBits ≤ halves.natAbs := by
  have hsame : (halves - roundHalves halves).natAbs =
      Nat.dist halves.natAbs (roundToBits significandBits halves.natAbs) := by
    unfold Nat.dist roundHalves
    split <;> omega
  rw [hsame]
  exact roundToBits_error (by decide) halves.natAbs

end DiceSum
