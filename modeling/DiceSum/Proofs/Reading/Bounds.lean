import DiceSum.Proofs.Text.Value
import DiceSum.Proofs.Token.Maximal
import DiceSum.Reading

/-!
# Numbers in range

Reading converts a number only if it has few enough digits and then checks its range. Taken together,
the two checks are one: a number is read exactly if its value is in range, whatever zeros stand in front
(`magnitude_eq_ok_iff`). So dice and constants are read exactly if their signed numbers are in range, and
every term that is read is one that a text can write (`inBounds_of_read`).
-/

namespace DiceSum

section Outcomes

variable {ε α β : Type}

/-- A computation in two steps succeeds if both steps do. -/
theorem bind_eq_ok_iff {x : Except ε α} {f : α → Except ε β} {b : β} :
    x >>= f = .ok b ↔ ∃ a, x = .ok a ∧ f a = .ok b := by
  cases x with
  | error e => simp [bind, Except.bind]
  | ok a => simp [bind, Except.bind]

/-- A mapped outcome is a result just if it comes from one. -/
theorem map_eq_ok_iff {x : Except ε α} {f : α → β} {b : β} :
    x.map f = .ok b ↔ ∃ a, x = .ok a ∧ f a = b := by
  cases x with
  | error e => simp [Except.map]
  | ok a => simp [Except.map]

/-- A mapped outcome fails just as the outcome does. -/
theorem map_eq_error_iff {x : Except ε α} {f : α → β} {e : ε} :
    x.map f = .error e ↔ x = .error e := by
  cases x with
  | error e => simp [Except.map]
  | ok a => simp [Except.map]

end Outcomes

/-- Whether a text can write a term: its numbers are in range, and there is a side at least. -/
def Term.InBounds : Term → Prop
  | .dice count sides =>
    (leastSigned ≤ count ∧ count ≤ greatestSigned) ∧ 1 ≤ sides ∧ sides ≤ greatestSides
  | .constant value => leastSigned ≤ value ∧ value ≤ greatestSigned

instance (term : Term) : Decidable term.InBounds := by
  cases term <;> exact inferInstanceAs (Decidable (_ ∧ _))

/-- Leading zeros are worth nothing. -/
theorem value_significant (digits : Text) : Decimal.value (significant digits) = Decimal.value digits := by
  induction digits with
  | nil => rfl
  | cons c digits ih =>
    by_cases hc : c = '0'
    · subst hc
      rw [Decimal.value_zero_cons, ← ih]
      rfl
    · rw [significant, List.dropWhile_cons_of_neg (by simpa using hc)]

/-- The digits left without leading zeros are few exactly if the value is small. -/
theorem length_significant_le_iff {digits : Text} (h : digits.all Char.isDigit = true) (bound : Nat) :
    (significant digits).length ≤ bound ↔ Decimal.value digits < 10 ^ bound := by
  have hall : (significant digits).all Char.isDigit = true := by
    rw [List.all_eq_true] at h ⊢
    exact fun c hc => h c ((List.dropWhile_suffix _).subset hc)
  have hhead : (significant digits).head? ≠ some '0' := by
    have hstop := List.head?_dropWhile_not (· == '0') digits
    intro hzero
    rw [significant] at hzero
    simp [hzero] at hstop
  rw [← value_significant]
  constructor
  · intro hlength
    exact Nat.lt_of_lt_of_le (Decimal.value_lt_pow hall) (Nat.pow_le_pow_right (by decide) hlength)
  · intro hvalue
    cases hdigits : significant digits with
    | nil => exact Nat.zero_le bound
    | cons c rest =>
      rw [hdigits] at hall hhead hvalue
      simp only [List.all_cons, Bool.and_eq_true, List.head?_cons, ne_eq, Option.some.injEq] at hall hhead
      have hpow : 10 ^ rest.length < 10 ^ bound :=
        Nat.lt_of_le_of_lt (Decimal.pow_le_value hall.1 hhead) hvalue
      exact (Nat.pow_lt_pow_iff_right (by decide)).mp hpow

/-- A run of digits has a magnitude exactly if it is worth less than the tenth power of ten. -/
theorem magnitude_eq_ok_iff {field : Field} {digits : Text} (h : digits.all Char.isDigit = true)
    {n : Nat} :
    magnitude field digits = .ok n ↔
      Decimal.value digits < 10 ^ maxSignificantDigits ∧ Decimal.value digits = n := by
  rw [← length_significant_le_iff h, magnitude, value_significant]
  split <;> simp <;> omega

/-- A number passes a range check just if it lies between the bounds, and comes out unchanged. -/
theorem within_eq_ok_iff {field : Field} {low high value v : Int} :
    within field low high value = .ok v ↔ (low ≤ value ∧ value ≤ high) ∧ value = v := by
  unfold within
  split
  · rename_i h
    simp [h]
  · rename_i h
    simp [h]

/-- A number of sides passes its check just if it is positive and not too great. -/
theorem sidesWithin_eq_ok_iff {sides : Nat} {v : Int} :
    sidesWithin sides = .ok v ↔
      (1 ≤ (sides : Int) ∧ (sides : Int) ≤ greatestSides) ∧ (sides : Int) = v := by
  unfold sidesWithin
  split
  · rename_i h
    simp [h]
  · rw [within_eq_ok_iff]

/-- The number of dice that the digits of a count stand for; no digits stand for one die. -/
def countValue (digits : Text) : Nat :=
  if digits = [] then 1 else Decimal.value digits

/-- A count is converted just if its value has at most ten digits, and then to this value. -/
theorem countMagnitude_eq_ok_iff {digits : Text} (h : digits.all Char.isDigit = true) {n : Nat} :
    countMagnitude magnitude digits = .ok n ↔
      countValue digits < 10 ^ maxSignificantDigits ∧ countValue digits = n := by
  unfold countMagnitude countValue
  split
  · simp [maxSignificantDigits]
  · exact magnitude_eq_ok_iff h

/-- A number in range is small enough to be converted. -/
theorem lt_pow_of_apply_le {sign : Option Sign} {n : Nat}
    (h : leastSigned ≤ Sign.apply sign n ∧ Sign.apply sign n ≤ greatestSigned) :
    n < 10 ^ maxSignificantDigits := by
  have hcases : Sign.apply sign n = n ∨ Sign.apply sign n = -(n : Int) := by
    rcases sign with _ | _ | _
    · exact .inl rfl
    · exact .inl rfl
    · exact .inr rfl
  simp only [leastSigned, greatestSigned, maxSignificantDigits] at h ⊢
  omega

/-- Dice are read exactly if their numbers are in range. -/
theorem readDice_eq_ok_iff {sign : Option Sign} {count sides : Text}
    (hcount : count.all Char.isDigit = true) (hsides : sides.all Char.isDigit = true) {term : Term} :
    readDice magnitude sign count sides = .ok term ↔
      (Term.dice (Sign.apply sign (countValue count)) (Decimal.value sides)).InBounds ∧
        .dice (Sign.apply sign (countValue count)) (Decimal.value sides) = term := by
  simp only [readDice, bind_eq_ok_iff, countMagnitude_eq_ok_iff hcount,
    magnitude_eq_ok_iff hsides, within_eq_ok_iff, sidesWithin_eq_ok_iff, Term.InBounds]
  constructor
  · rintro ⟨n, ⟨-, rfl⟩, m, ⟨-, rfl⟩, v, ⟨hcountIn, rfl⟩, w, ⟨hsidesIn, rfl⟩, hterm⟩
    exact ⟨⟨hcountIn, hsidesIn⟩, Except.ok.inj hterm⟩
  · rintro ⟨⟨hcountIn, hsidesIn⟩, rfl⟩
    have hsmall : Decimal.value sides < 10 ^ maxSignificantDigits := by
      have hle := hsidesIn.2
      simp only [greatestSides, maxSignificantDigits] at hle ⊢
      omega
    exact ⟨_, ⟨lt_pow_of_apply_le hcountIn, rfl⟩, _, ⟨hsmall, rfl⟩, _, ⟨hcountIn, rfl⟩, _,
      ⟨hsidesIn, rfl⟩, rfl⟩

/-- A constant is read exactly if it is in range. -/
theorem readConstant_eq_ok_iff {sign : Option Sign} {digits : Text}
    (hdigits : digits.all Char.isDigit = true) {term : Term} :
    readConstant magnitude sign digits = .ok term ↔
      (Term.constant (Sign.apply sign (Decimal.value digits))).InBounds ∧
        .constant (Sign.apply sign (Decimal.value digits)) = term := by
  simp only [readConstant, bind_eq_ok_iff, magnitude_eq_ok_iff hdigits, within_eq_ok_iff,
    Term.InBounds]
  constructor
  · rintro ⟨n, ⟨-, rfl⟩, v, ⟨hin, rfl⟩, hterm⟩
    exact ⟨hin, Except.ok.inj hterm⟩
  · rintro ⟨hin, rfl⟩
    exact ⟨_, ⟨lt_pow_of_apply_le hin, rfl⟩, _, ⟨hin, rfl⟩, rfl⟩

namespace Token

/-- The terms that a token writes, in range or not. -/
def written : Token → List Term
  | gap _ => []
  | dice sign _ count _ sides =>
    [.dice (Sign.apply sign (countValue count)) (Decimal.value sides)]
  | constant sign _ digits => [.constant (Sign.apply sign (Decimal.value digits))]
  | unknown _ => []

/-- Whether a token is read: it is known, and its numbers are in range. -/
def IsReadable : Token → Prop
  | unknown _ => False
  | token => ∀ term ∈ token.written, term.InBounds

/-- A token that is first in its text is read exactly if it is readable, as what it writes. -/
theorem terms_eq_ok_iff {token : Token} {rest : Text} (h : Maximal token rest) {terms : List Term} :
    token.terms magnitude = .ok terms ↔ token.IsReadable ∧ token.written = terms := by
  cases h with
  | gap => simp [Token.terms, IsReadable, written]
  | dice number is_mark nonempty all_sides =>
    rw [Token.terms, map_eq_ok_iff]
    simp only [readDice_eq_ok_iff number.all_digits all_sides]
    simp [IsReadable, written]
  | constant number =>
    rw [Token.terms, map_eq_ok_iff]
    simp only [readConstant_eq_ok_iff number.all_digits]
    simp [IsReadable, written]
  | unknown => simp [Token.terms, IsReadable]

end Token

/-- Behind a token that is read, reading goes on where the token ends. -/
theorem readFrom_cons_of_ok {convert : Conversion} {position : Nat} {token : Token} {terms : List Term}
    (h : token.terms convert = .ok terms) (rest : List Token) :
    readFrom convert position (token :: rest) =
      (readFrom convert (position + token.text.length) rest).map (terms ++ ·) := by
  rw [readFrom, h]

/-- A gap is read over. -/
theorem readFrom_gap (convert : Conversion) (position : Nat) (blanks : Text) (rest : List Token) :
    readFrom convert position (.gap blanks :: rest) =
      readFrom convert (position + blanks.length) rest := by
  rw [readFrom, Token.terms, Token.text]
  cases readFrom convert (position + blanks.length) rest <;> rfl

/-- Tokens are read if the first one is and the others are. -/
theorem readFrom_cons_eq_ok_iff {convert : Conversion} {position : Nat} {token : Token}
    {rest : List Token} {terms : List Term} :
    readFrom convert position (token :: rest) = .ok terms ↔
      ∃ first, token.terms convert = .ok first ∧
        ∃ more, readFrom convert (position + token.text.length) rest = .ok more ∧
          first ++ more = terms := by
  rw [readFrom]
  cases token.terms convert with
  | error fault => simp
  | ok first => simp [map_eq_ok_iff]

/-- A text is read exactly if its tokens are readable, as what they write. -/
theorem readFrom_scan_eq_ok_iff {position : Nat} {text : Text} {terms : List Term} :
    readFrom magnitude position (Token.scan text) = .ok terms ↔
      (∀ token ∈ Token.scan text, token.IsReadable) ∧
        (Token.scan text).flatMap Token.written = terms := by
  induction text using Token.scan_induction generalizing position terms with
  | nil => simp [readFrom]
  | cut token rest h ih =>
    rw [Token.scan_append h, readFrom_cons_eq_ok_iff]
    simp only [Token.terms_eq_ok_iff h, ih, List.forall_mem_cons, List.flatMap_cons]
    constructor
    · rintro ⟨_, ⟨hfirst, rfl⟩, _, ⟨hrest, rfl⟩, rfl⟩
      exact ⟨⟨hfirst, hrest⟩, rfl⟩
    · rintro ⟨⟨hfirst, hrest⟩, rfl⟩
      exact ⟨_, ⟨hfirst, rfl⟩, _, ⟨hrest, rfl⟩, rfl⟩

/-- A text is read exactly if its tokens are readable, as what they write. -/
theorem read_eq_ok_iff_readable {text : Text} {terms : List Term} :
    read text = .ok terms ↔
      (∀ token ∈ Token.scan text, token.IsReadable) ∧
        (Token.scan text).flatMap Token.written = terms :=
  readFrom_scan_eq_ok_iff

/-- Terms that are read have numbers in range. -/
theorem inBounds_of_read {text : Text} {terms : List Term} (h : read text = .ok terms) :
    ∀ term ∈ terms, term.InBounds := by
  obtain ⟨hreadable, rfl⟩ := read_eq_ok_iff_readable.mp h
  intro term hterm
  obtain ⟨token, htoken, hwritten⟩ := List.mem_flatMap.mp hterm
  have htokenReadable := hreadable token htoken
  cases token with
  | gap => simp [Token.written] at hwritten
  | dice | constant => exact htokenReadable term hwritten
  | unknown => simp [Token.written] at hwritten

end DiceSum
