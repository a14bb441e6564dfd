import Mathlib.Tactic.SplitIfs
import DiceSum.Proofs.Reading.Bounds

/-!
# Which fault a token has

A number with too many digits is at fault before its range is looked at. So reading a token is looking at
the lengths of its numbers and then reading it with every run of digits converted (`readDice_magnitude`,
`readConstant_magnitude`), and with every run converted the first check that fails names the fault
(`readDice_exactly`, `readConstant_exactly`). Everything else about faults follows from these equations.
-/

namespace DiceSum

/-- The conversion of every run of digits, however long. -/
def exactly : Conversion := fun _ digits =>
  .ok (Decimal.value digits)

/-- Whether a run of digits is too long to be converted. -/
def IsLong (digits : Text) : Prop :=
  maxSignificantDigits < (significant digits).length

instance (digits : Text) : Decidable (IsLong digits) :=
  inferInstanceAs (Decidable (_ < _))

/-- Whether a count or a constant is in range. -/
def IsSigned (n : Int) : Prop :=
  leastSigned ≤ n ∧ n ≤ greatestSigned

instance (n : Int) : Decidable (IsSigned n) :=
  inferInstanceAs (Decidable (_ ∧ _))

/-- The number that a fault is about; none if the token as a whole is not understood. -/
def Fault.field? : Fault → Option Field
  | tooLong field _ => some field
  | outside field _ => some field
  | noSides => none
  | unknown => none

/-- A client is told the number at fault, or that the token was not understood. -/
theorem Rejection.refusal_eq (rejection : Rejection) :
    rejection.refusal =
      match rejection.fault.field? with
      | some field => .outOfRange field rejection.token rejection.position
      | none => .notUnderstood rejection.token rejection.position := by
  unfold refusal Fault.field?
  cases rejection.fault <;> rfl

variable {sign : Option Sign} {count sides digits : Text}

/-- A run of digits is converted unless it is too long. -/
theorem magnitude_eq (field : Field) (digits : Text) :
    magnitude field digits =
      if IsLong digits then .error (.tooLong field (significant digits).length)
      else exactly field digits := by
  rw [magnitude, exactly, value_significant]
  rfl

/-- A count that is left out has no digits, and no run without digits is too long. -/
theorem countMagnitude_magnitude (digits : Text) :
    countMagnitude magnitude digits =
      if IsLong digits then .error (.tooLong .count (significant digits).length)
      else countMagnitude exactly digits := by
  rw [countMagnitude, countMagnitude, magnitude_eq]
  split
  · rename_i h
    rw [h]
    rfl
  · rfl

/-- With full conversion, every count has its value. -/
theorem countMagnitude_exactly (digits : Text) :
    countMagnitude exactly digits = .ok (countValue digits) := by
  rw [countMagnitude, countValue]
  split <;> rfl

/-- Dice are read as if every run of digits was converted, unless one is too long. -/
theorem readDice_magnitude (sign : Option Sign) (count sides : Text) :
    readDice magnitude sign count sides =
      if IsLong count then .error (.tooLong .count (significant count).length)
      else if IsLong sides then .error (.tooLong .sides (significant sides).length)
      else readDice exactly sign count sides := by
  rw [readDice, readDice, countMagnitude_magnitude, magnitude_eq, countMagnitude_exactly]
  by_cases hcount : IsLong count
  · rw [if_pos hcount, if_pos hcount]
    rfl
  · rw [if_neg hcount, if_neg hcount]
    by_cases hsides : IsLong sides
    · rw [if_pos hsides, if_pos hsides]
      rfl
    · rw [if_neg hsides, if_neg hsides]

/-- A constant is read as if every run of digits was converted, unless it is too long. -/
theorem readConstant_magnitude (sign : Option Sign) (digits : Text) :
    readConstant magnitude sign digits =
      if IsLong digits then .error (.tooLong .constant (significant digits).length)
      else readConstant exactly sign digits := by
  rw [readConstant, readConstant, magnitude_eq]
  split <;> rfl

/-- The range check of a signed number asks whether it is one of 32 bits. -/
theorem within_signed (field : Field) (n : Int) :
    within field leastSigned greatestSigned n =
      if IsSigned n then .ok n else .error (.outside field n) :=
  rfl

/-- The check of a number of sides asks for zero first, and then for the greatest number. -/
theorem sidesWithin_eq (sides : Nat) :
    sidesWithin sides =
      if sides = 0 then .error .noSides
      else if greatestSides < sides then .error (.outside .sides sides)
      else .ok sides := by
  unfold sidesWithin within
  by_cases hzero : sides = 0
  · rw [if_pos hzero, if_pos hzero]
  · rw [if_neg hzero, if_neg hzero]
    by_cases hlarge : greatestSides < sides
    · rw [if_pos hlarge, if_neg (by omega)]
    · rw [if_neg hlarge, if_pos (by omega)]

/-- With every run of digits converted, the count of dice is looked at first, then whether there are
sides, then how many. -/
theorem readDice_exactly (sign : Option Sign) (count sides : Text) :
    readDice exactly sign count sides =
      if IsSigned (Sign.apply sign (countValue count)) then
        if Decimal.value sides = 0 then .error .noSides
        else if greatestSides < Decimal.value sides then
          .error (.outside .sides (Decimal.value sides))
        else .ok (.dice (Sign.apply sign (countValue count)) (Decimal.value sides))
      else .error (.outside .count (Sign.apply sign (countValue count))) := by
  rw [readDice, countMagnitude_exactly]
  change (within .count leastSigned greatestSigned (Sign.apply sign (countValue count)) >>=
    fun signed => sidesWithin (Decimal.value sides) >>= fun checked =>
      .ok (Term.dice signed checked)) = _
  rw [within_signed, sidesWithin_eq]
  split_ifs <;> rfl

/-- With every run of digits converted, only the range of a constant is looked at. -/
theorem readConstant_exactly (sign : Option Sign) (digits : Text) :
    readConstant exactly sign digits =
      if IsSigned (Sign.apply sign (Decimal.value digits)) then
        .ok (.constant (Sign.apply sign (Decimal.value digits)))
      else .error (.outside .constant (Sign.apply sign (Decimal.value digits))) := by
  change (within .constant leastSigned greatestSigned (Sign.apply sign (Decimal.value digits)) >>=
    fun signed => .ok (Term.constant signed)) = _
  rw [within_signed]
  split_ifs <;> rfl

/-- A number in range is not too long. -/
theorem not_isSigned_of_isLong (hdigits : digits.all Char.isDigit = true) (h : IsLong digits)
    (sign : Option Sign) : ¬ IsSigned (Sign.apply sign (Decimal.value digits)) := by
  intro hsigned
  have hshort := (length_significant_le_iff hdigits _).mpr (lt_pow_of_apply_le hsigned)
  exact absurd h (Nat.not_lt.mpr hshort)

/-- Sides in range are not too long. -/
theorem greatestSides_lt_of_isLong (hdigits : digits.all Char.isDigit = true) (h : IsLong digits) :
    greatestSides < Decimal.value digits := by
  have hlarge : ¬ Decimal.value digits < 10 ^ maxSignificantDigits := by
    rw [← length_significant_le_iff hdigits]
    exact Nat.not_le.mpr h
  simp only [maxSignificantDigits, greatestSides] at hlarge ⊢
  omega

/-- Dice are at fault because of one of their numbers, or because they have no sides. -/
theorem fault_of_readDice {fault : Fault} (h : readDice magnitude sign count sides = .error fault) :
    (∃ field, fault.field? = some field) ∨ fault = .noSides ∧ Decimal.value sides = 0 := by
  rw [readDice_magnitude, readDice_exactly] at h
  split_ifs at h with hcount hsides hsigned hzero hlarge <;> obtain rfl := Except.error.inj h
  · exact .inl ⟨.count, rfl⟩
  · exact .inl ⟨.sides, rfl⟩
  · exact .inr ⟨rfl, hzero⟩
  · exact .inl ⟨.sides, rfl⟩
  · exact .inl ⟨.count, rfl⟩

/-- A constant is at fault because of its number. -/
theorem fault_of_readConstant {fault : Fault} (h : readConstant magnitude sign digits = .error fault) :
    ∃ field, fault.field? = some field := by
  rw [readConstant_magnitude, readConstant_exactly] at h
  split_ifs at h <;> obtain rfl := Except.error.inj h
  · exact ⟨.constant, rfl⟩
  · exact ⟨.constant, rfl⟩

end DiceSum
