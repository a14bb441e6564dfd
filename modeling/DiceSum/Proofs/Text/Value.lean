import Mathlib.Algebra.Order.Ring.Int
import DiceSum.Text.Decimal

/-!
# The value of a run of digits

A run of digits is worth its first digit times a power of ten, and what the other digits are worth. So
leading zeros are worth nothing, and without them the number of digits says how large the value is:
between one power of ten and the next (`value_lt_pow` and `pow_le_value`).

Since a written number has its value, no two numbers are written alike, with or without a sign
(`ofInt_injective` and `signed_injective`).
-/

namespace DiceSum.Decimal

/-- Digits that are read after others leave the others a power of ten up. -/
theorem foldl_eq_value (digits : Text) (n : Nat) :
    digits.foldl (fun n c => 10 * n + digitValue c) n = n * 10 ^ digits.length + value digits := by
  induction digits generalizing n with
  | nil => simp [value]
  | cons c digits ih =>
    have hshift : 10 * n * 10 ^ digits.length = n * 10 ^ (digits.length + 1) := by
      rw [Nat.pow_succ, Nat.mul_comm 10 n, Nat.mul_assoc, Nat.mul_comm 10]
    rw [value, List.foldl_cons, List.foldl_cons, ih, ih (10 * 0 + digitValue c), List.length_cons,
      Nat.mul_zero, Nat.zero_add, Nat.add_mul, hshift, Nat.add_assoc]

/-- The first digit counts for a power of ten. -/
theorem value_cons (c : Char) (digits : Text) :
    value (c :: digits) = digitValue c * 10 ^ digits.length + value digits := by
  rw [value, List.foldl_cons, foldl_eq_value]
  simp

/-- A leading zero does not count. -/
theorem value_zero_cons (digits : Text) : value ('0' :: digits) = value digits := by
  rw [value_cons]
  simp [digitValue]

/-- A digit is worth less than ten. -/
theorem digitValue_lt {c : Char} (h : c.isDigit = true) : digitValue c < 10 := by
  simp only [Char.isDigit, Bool.and_eq_true, decide_eq_true_eq] at h
  have hle : c.toNat ≤ 57 := UInt32.le_iff_toNat_le.mp h.2
  simp only [digitValue]
  omega

/-- Only the digit zero is worth nothing. -/
theorem one_le_digitValue {c : Char} (h : c.isDigit = true) (hzero : c ≠ '0') :
    1 ≤ digitValue c := by
  simp only [Char.isDigit, Bool.and_eq_true, decide_eq_true_eq] at h
  have hle : 48 ≤ c.toNat := UInt32.le_iff_toNat_le.mp h.1
  have hne : c.toNat ≠ 48 := fun heq => hzero (Char.toNat_inj.mp heq)
  simp only [digitValue]
  omega

/-- A run of digits is worth less than the power of ten with that many zeros. -/
theorem value_lt_pow {digits : Text} (h : digits.all Char.isDigit = true) :
    value digits < 10 ^ digits.length := by
  induction digits with
  | nil => decide
  | cons c digits ih =>
    simp only [List.all_cons, Bool.and_eq_true] at h
    have hrest := ih h.2
    have hdigit : digitValue c + 1 ≤ 10 := digitValue_lt h.1
    have hbound := Nat.mul_le_mul_right (10 ^ digits.length) hdigit
    rw [Nat.add_mul] at hbound
    rw [value_cons, List.length_cons, Nat.pow_succ, Nat.mul_comm (10 ^ digits.length)]
    omega

/-- A run of digits that starts with another digit than zero is worth a power of ten at least. -/
theorem pow_le_value {c : Char} {digits : Text} (h : c.isDigit = true) (hzero : c ≠ '0') :
    10 ^ digits.length ≤ value (c :: digits) := by
  have hbound := Nat.mul_le_mul_right (10 ^ digits.length) (one_le_digitValue h hzero)
  rw [value_cons]
  omega

/-- Different natural numbers are written differently. -/
theorem ofNat_injective : Function.Injective ofNat :=
  Function.LeftInverse.injective value_ofNat

/-- A written natural number starts with a digit. -/
theorem ofNat_ne_cons {c : Char} (h : c.isDigit = false) (n : Nat) (rest : Text) :
    ofNat n ≠ c :: rest := by
  intro heq
  have hdigit : c.isDigit = true := isDigit_of_mem_ofNat (n := n) (by simp [heq])
  simp [hdigit] at h

/-- No two integers are written alike. -/
theorem ofInt_injective : Function.Injective ofInt := by
  intro m n h
  cases m with
  | ofNat m =>
    cases n with
    | ofNat n => rw [ofNat_injective h]
    | negSucc n => exact absurd h (ofNat_ne_cons rfl m _)
  | negSucc m =>
    cases n with
    | ofNat n => exact absurd h.symm (ofNat_ne_cons rfl n _)
    | negSucc n => rw [Nat.succ_inj.mp (ofNat_injective (List.cons.inj h).2)]

/-- No two integers are written alike with a sign. -/
theorem signed_injective : Function.Injective signed := by
  intro m n h
  cases m with
  | ofNat m =>
    cases n with
    | ofNat n => rw [ofNat_injective (List.cons.inj h).2]
    | negSucc n => cases (List.cons.inj h).1
  | negSucc m =>
    cases n with
    | ofNat n => cases (List.cons.inj h).1
    | negSucc n => rw [Nat.succ_inj.mp (ofNat_injective (List.cons.inj h).2)]

/-- A written natural number has digits only. -/
theorem notMem_ofNat {c : Char} (h : c.isDigit = false) (n : Nat) : c ∉ ofNat n := by
  intro hmem
  simp [isDigit_of_mem_ofNat hmem] at h

/-- A written integer has no characters but digits and a minus sign. -/
theorem notMem_ofInt {c : Char} (hdigit : c.isDigit = false) (hsign : c ≠ '-') (n : Int) :
    c ∉ ofInt n := by
  cases n with
  | ofNat n => exact notMem_ofNat hdigit n
  | negSucc n => exact List.not_mem_cons_of_ne_of_not_mem hsign (notMem_ofNat hdigit (n + 1))

/-- Every integer has a written form. -/
theorem ofInt_ne_nil (n : Int) : ofInt n ≠ [] := by
  cases n with
  | ofNat n => exact ofNat_ne_nil n
  | negSucc n => exact List.cons_ne_nil _ _

/-- An integer written with a sign has no characters but digits and that sign. -/
theorem notMem_signed {c : Char} (hdigit : c.isDigit = false) (hplus : c ≠ '+') (hminus : c ≠ '-')
    (n : Int) : c ∉ signed n := by
  cases n with
  | ofNat n => exact List.not_mem_cons_of_ne_of_not_mem hplus (notMem_ofNat hdigit n)
  | negSucc n => exact List.not_mem_cons_of_ne_of_not_mem hminus (notMem_ofNat hdigit (n + 1))

end DiceSum.Decimal
