import DiceSum.Proofs.Reading.Extent
import DiceSum.Proofs.Reading.Faults

/-!
# Long numbers are out of range

Reading does not convert a number with more than ten digits behind its leading zeros, since such a number is
out of range whatever the digits are. Reading with every number converted accepts the same texts as the
same terms, and rejects the others because of the same token (`read_readExactly`).

Only one thing can tell the two apart. The lengths of both numbers of a dice token are checked before the
range of either. So if the count is out of range but short, and the sides are too long, the sides are
named where conversion would have found the count first (`HidesCount`).
-/

namespace DiceSum

open Token

/-- Reads a text with every run of digits converted, however long. -/
def readExactly (text : Text) : Except Rejection (List Term) :=
  readFrom exactly 0 (scan text)

/-- Whether a text is a single dice token with a count out of range that is short enough to be converted,
and with sides that are too long for it. -/
def HidesCount (text : Text) : Prop :=
  ∃ sign count sides, IsDiceText text sign count sides ∧
    ¬ IsSigned (Sign.apply sign (countValue count)) ∧ ¬ IsLong count ∧ IsLong sides

/-- Two faults of a token name the same number, or both none, unless the token hides its count. -/
structure SameField (token : Text) (fault other : Fault) : Prop where
  same : ¬ HidesCount token → fault.field? = other.field?
  hidden : HidesCount token → fault.field? = some .sides ∧ other.field? = some .count

/-- Faults that name one field agree, if the token does not hide its count. -/
theorem SameField.of_field? {token : Text} {fault other : Fault} (hshown : ¬ HidesCount token)
    (h : fault.field? = other.field?) : SameField token fault other :=
  ⟨fun _ => h, fun hhidden => absurd hhidden hshown⟩

variable {token : Token} {rest : Text}

/-- Only dice hide a count. -/
theorem not_hidesCount_of_ne_dice (h : Token.Maximal token rest)
    (hdice : ∀ sign blanks count mark sides, token ≠ .dice sign blanks count mark sides) :
    ¬ HidesCount token.text := by
  rintro ⟨sign, count, sides, htext, -⟩
  obtain ⟨blanks, mark, htoken⟩ := htext.eq_dice h
  exact hdice sign blanks count mark sides htoken

/-- Dice hide their count just if it is out of range without being too long, and their sides are too long.
-/
theorem hidesCount_dice_iff {sign : Option Sign} {blanks count sides : Text} {mark : Char}
    (h : Token.Maximal (.dice sign blanks count mark sides) rest) :
    HidesCount (Token.dice sign blanks count mark sides).text ↔
      ¬ IsSigned (Sign.apply sign (countValue count)) ∧ ¬ IsLong count ∧ IsLong sides := by
  constructor
  · rintro ⟨otherSign, otherCount, otherSides, htext, hhidden⟩
    obtain ⟨otherBlanks, otherMark, htoken⟩ := htext.eq_dice h
    obtain ⟨rfl, -, rfl, -, rfl⟩ := Token.dice.inj htoken
    exact hhidden
  · exact fun hhidden => ⟨sign, count, sides, ⟨blanks, mark, h.alone, rfl⟩, hhidden⟩

/-- A count that is too long is out of range. -/
theorem not_isSigned_count_of_isLong {count : Text} (hcount : count.all Char.isDigit = true)
    (h : IsLong count) (sign : Option Sign) : ¬ IsSigned (Sign.apply sign (countValue count)) := by
  have hne : count ≠ [] := by
    rintro rfl
    exact absurd h (by decide)
  rw [countValue, if_neg hne]
  exact not_isSigned_of_isLong hcount h sign

/-- Whether a token comes out the same when its numbers are all converted: as the same terms, or at fault
because of the same number. -/
def Token.IsReadAlike (token : Token) : Prop :=
  (∃ terms, token.terms magnitude = .ok terms ∧ token.terms exactly = .ok terms) ∨
    ∃ fault other, token.terms magnitude = .error fault ∧ token.terms exactly = .error other ∧
      SameField token.text fault other

/-- A token that both conversions read to the same is read alike. -/
theorem isReadAlike_of_eq (h : token.terms magnitude = token.terms exactly)
    (hshown : ¬ HidesCount token.text) : token.IsReadAlike := by
  cases hexactly : token.terms exactly with
  | ok terms => exact .inl ⟨terms, h.trans hexactly, hexactly⟩
  | error fault => exact .inr ⟨fault, fault, h.trans hexactly, hexactly, .of_field? hshown rfl⟩

/-- Dice come out the same: what is too long is out of range, and with short numbers nothing differs. -/
theorem isReadAlike_dice {sign : Option Sign} {blanks count sides : Text} {mark : Char}
    (h : Token.Maximal (.dice sign blanks count mark sides) rest)
    (hcount : count.all Char.isDigit = true) (hsides : sides.all Char.isDigit = true) :
    (Token.dice sign blanks count mark sides).IsReadAlike := by
  have hhides := hidesCount_dice_iff h
  by_cases hlongCount : IsLong count
  · have hsigned := not_isSigned_count_of_isLong hcount hlongCount sign
    have hmagnitude : readDice magnitude sign count sides =
        .error (.tooLong .count (significant count).length) := by
      rw [readDice_magnitude, if_pos hlongCount]
    have hexactly : readDice exactly sign count sides =
        .error (.outside .count (Sign.apply sign (countValue count))) := by
      rw [readDice_exactly, if_neg hsigned]
    exact .inr ⟨_, _, map_eq_error_iff.mpr hmagnitude, map_eq_error_iff.mpr hexactly,
      .of_field? (fun hhidden => (hhides.mp hhidden).2.1 hlongCount) rfl⟩
  by_cases hlongSides : IsLong sides
  · have hmagnitude : readDice magnitude sign count sides =
        .error (.tooLong .sides (significant sides).length) := by
      rw [readDice_magnitude, if_neg hlongCount, if_pos hlongSides]
    have hlarge := greatestSides_lt_of_isLong hsides hlongSides
    have hsome : Decimal.value sides ≠ 0 := by
      simp only [greatestSides] at hlarge
      omega
    by_cases hsigned : IsSigned (Sign.apply sign (countValue count))
    · have hexactly : readDice exactly sign count sides =
          .error (.outside .sides (Decimal.value sides)) := by
        rw [readDice_exactly, if_pos hsigned, if_neg hsome, if_pos hlarge]
      exact .inr ⟨_, _, map_eq_error_iff.mpr hmagnitude, map_eq_error_iff.mpr hexactly,
        .of_field? (fun hhidden => (hhides.mp hhidden).1 hsigned) rfl⟩
    · -- The one case in which the two name different numbers.
      have hexactly : readDice exactly sign count sides =
          .error (.outside .count (Sign.apply sign (countValue count))) := by
        rw [readDice_exactly, if_neg hsigned]
      exact .inr ⟨_, _, map_eq_error_iff.mpr hmagnitude, map_eq_error_iff.mpr hexactly,
        fun hshown => absurd (hhides.mpr ⟨hsigned, hlongCount, hlongSides⟩) hshown,
        fun _ => ⟨rfl, rfl⟩⟩
  · have hshort : readDice magnitude sign count sides = readDice exactly sign count sides := by
      rw [readDice_magnitude, if_neg hlongCount, if_neg hlongSides]
    exact isReadAlike_of_eq (by rw [Token.terms, Token.terms, hshort])
      fun hhidden => hlongSides (hhides.mp hhidden).2.2

/-- A constant comes out the same: what is too long is out of range. -/
theorem isReadAlike_constant {sign : Option Sign} {blanks digits : Text}
    (h : Token.Maximal (.constant sign blanks digits) rest)
    (hdigits : digits.all Char.isDigit = true) : (Token.constant sign blanks digits).IsReadAlike := by
  have hshown := not_hidesCount_of_ne_dice h (by simp)
  by_cases hlong : IsLong digits
  · have hmagnitude : readConstant magnitude sign digits =
        .error (.tooLong .constant (significant digits).length) := by
      rw [readConstant_magnitude, if_pos hlong]
    have hexactly : readConstant exactly sign digits =
        .error (.outside .constant (Sign.apply sign (Decimal.value digits))) := by
      rw [readConstant_exactly, if_neg (not_isSigned_of_isLong hdigits hlong sign)]
    exact .inr ⟨_, _, map_eq_error_iff.mpr hmagnitude, map_eq_error_iff.mpr hexactly,
      .of_field? hshown rfl⟩
  · have hshort : readConstant magnitude sign digits = readConstant exactly sign digits := by
      rw [readConstant_magnitude, if_neg hlong]
    exact isReadAlike_of_eq (by rw [Token.terms, Token.terms, hshort]) hshown

/-- Every token of a text comes out the same when its numbers are all converted. -/
theorem isReadAlike_of_maximal (h : Token.Maximal token rest) : token.IsReadAlike := by
  cases h with
  | gap => exact .inl ⟨[], rfl, rfl⟩
  | dice number is_mark nonempty all_sides stop =>
    exact isReadAlike_dice (.dice number is_mark nonempty all_sides stop) number.all_digits all_sides
  | constant number nonempty stop no_die =>
    exact isReadAlike_constant (.constant number nonempty stop no_die) number.all_digits
  | unknown nonempty all_inked stop no_digit no_die =>
    exact isReadAlike_of_eq rfl
      (not_hidesCount_of_ne_dice (.unknown nonempty all_inked stop no_digit no_die) (by simp))

/-- Tokens in a row are read as the same terms, or rejected because of the same one. -/
theorem readFrom_exactly (position : Nat) (text : Text) :
    (∃ terms, readFrom magnitude position (scan text) = .ok terms ∧
      readFrom exactly position (scan text) = .ok terms) ∨
    ∃ rejection other, readFrom magnitude position (scan text) = .error rejection ∧
      readFrom exactly position (scan text) = .error { rejection with fault := other } ∧
      SameField rejection.token rejection.fault other := by
  induction text using scan_induction generalizing position with
  | nil => exact .inl ⟨[], by rw [scan_nil, readFrom], by rw [scan_nil, readFrom]⟩
  | cut token rest hmaximal ih =>
    rw [scan_append hmaximal, readFrom, readFrom]
    obtain ⟨first, hmagnitude, hexactly⟩ | ⟨fault, other, hmagnitude, hexactly, hsame⟩ :=
      isReadAlike_of_maximal hmaximal
    · rw [hmagnitude, hexactly]
      obtain ⟨more, hmore, hother⟩ | ⟨rejection, other, hmore, hother, hsame⟩ :=
        ih (position + token.text.length)
      · exact .inl ⟨first ++ more, by rw [hmore]; rfl, by rw [hother]; rfl⟩
      · exact .inr ⟨rejection, other, by rw [hmore]; rfl, by rw [hother]; rfl, hsame⟩
    · rw [hmagnitude, hexactly]
      exact .inr ⟨_, other, rfl, rfl, hsame⟩

/-- Reading accepts a text exactly if reading with every number converted does, and as the same terms.
Otherwise both reject the same token, and tell a client the same, unless the token hides its count: then
the sides are out of range where conversion finds the count out of range. -/
theorem read_readExactly (text : Text) :
    (∃ terms, read text = .ok terms ∧ readExactly text = .ok terms) ∨
    ∃ rejection other, read text = .error rejection ∧ readExactly text = .error other ∧
      other.token = rejection.token ∧ other.position = rejection.position ∧
      (¬ HidesCount rejection.token → other.refusal = rejection.refusal) ∧
      (HidesCount rejection.token →
        rejection.refusal = .outOfRange .sides rejection.token rejection.position ∧
          other.refusal = .outOfRange .count rejection.token rejection.position) := by
  obtain haccepted | ⟨rejection, fault, hread, hexactly, hsame⟩ := readFrom_exactly 0 text
  · exact .inl haccepted
  · refine .inr ⟨rejection, _, hread, hexactly, rfl, rfl, fun hshown => ?_, fun hhidden => ?_⟩
    · rw [Rejection.refusal_eq, Rejection.refusal_eq, hsame.same hshown]
    · obtain ⟨hsides, hcount⟩ := hsame.hidden hhidden
      rw [Rejection.refusal_eq, Rejection.refusal_eq, hsides, hcount]
      exact ⟨rfl, rfl⟩

/-- A count out of range with ten digits is passed over if the sides have eleven. -/
example : read "-3000000000d99999999999".toList = .error {
      token := "-3000000000d99999999999".toList, position := 0, fault := .tooLong .sides 11 } ∧
    readExactly "-3000000000d99999999999".toList = .error {
      token := "-3000000000d99999999999".toList
      position := 0
      fault := .outside .count (-3000000000) } := by
  decide +kernel

end DiceSum
