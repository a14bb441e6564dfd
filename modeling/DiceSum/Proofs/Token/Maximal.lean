import DiceSum.Proofs.Text.Run

/-!
# Tokens are as long as they can be

`Maximal token rest` says, without cutting anything, when a token is the first one of the text that it
and the rest make up: it is well formed, no longer token of its kind starts there, and no kind that comes
before its own fits. Cutting finds this token and no other. So a text is either empty or a maximal token
before a rest (`scan_induction`), and the tokens of the text are that token and the tokens of the rest
(`scan_append`). What is said about tokens elsewhere rests on these two.
-/

namespace DiceSum.Token

/-- Whether a text starts with the letter of a die and a digit. -/
def startsDie : Text → Bool
  | [] => false
  | mark :: after => isDieMark mark && startsWith Char.isDigit after

/-- What is left of a text behind a sign and blanks. -/
def unsignedPart (s : Text) : Text :=
  (Sign.cut s).2.dropWhile isBlank

/-- The start that dice and constants share: digits, with blanks before them only behind a sign. -/
structure IsNumber (sign : Option Sign) (blanks digits : Text) : Prop where
  all_blanks : blanks.all isBlank = true
  unsigned : sign = none → blanks = []
  all_digits : digits.all Char.isDigit = true

/-- A token is the first one of the text that it makes up with a rest. -/
inductive Maximal : Token → Text → Prop
  /-- A gap takes all blanks. -/
  | gap {blanks rest : Text} (nonempty : blanks ≠ []) (all_blanks : blanks.all isBlank = true)
      (stop : startsWith isBlank rest = false) : Maximal (gap blanks) rest
  /-- Dice take all digits of their sides. -/
  | dice {sign : Option Sign} {blanks count sides rest : Text} {mark : Char}
      (number : IsNumber sign blanks count) (is_mark : isDieMark mark = true)
      (nonempty : sides ≠ []) (all_sides : sides.all Char.isDigit = true)
      (stop : startsWith Char.isDigit rest = false) :
      Maximal (dice sign blanks count mark sides) rest
  /-- A constant takes all its digits, and no dice may follow from them. -/
  | constant {sign : Option Sign} {blanks digits rest : Text}
      (number : IsNumber sign blanks digits) (nonempty : digits ≠ [])
      (stop : startsWith Char.isDigit rest = false) (no_die : startsDie rest = false) :
      Maximal (constant sign blanks digits) rest
  /-- A run of anything ends at a blank, and neither dice nor a constant starts with it. -/
  | unknown {run rest : Text} (nonempty : run ≠ []) (all_inked : run.all (!isBlank ·) = true)
      (stop : startsWith (!isBlank ·) rest = false)
      (no_digit : startsWith Char.isDigit (unsignedPart (run ++ rest)) = false)
      (no_die : startsDie (unsignedPart (run ++ rest)) = false) : Maximal (unknown run) rest

variable {sign : Option Sign} {blanks digits rest : Text}

/-- Behind the digits of a number the text goes on with a digit or with something inked, so a number
without digits stands before something inked. -/
theorem IsNumber.startsWith_text (h : IsNumber sign blanks digits)
    (hrest : startsWith isBlank (digits ++ rest) = false) :
    startsWith isBlank (Sign.text sign ++ blanks ++ digits ++ rest) = false := by
  cases sign with
  | none => simpa [Sign.text, h.unsigned rfl] using hrest
  | some sign => cases sign <;> rfl

/-- A number is taken apart as it was put together. -/
theorem IsNumber.head_of (h : IsNumber sign blanks digits)
    (hdigit : startsWith Char.isDigit rest = false)
    (hblank : startsWith isBlank (digits ++ rest) = false)
    (hsign : startsWith isSignMark (digits ++ rest) = false) :
    Head.of (Sign.text sign ++ blanks ++ digits ++ rest) = ⟨sign, blanks, digits, rest⟩ := by
  have hcut : Sign.cut (Sign.text sign ++ blanks ++ digits ++ rest) =
      (sign, blanks ++ (digits ++ rest)) := by
    cases sign with
    | none =>
      rw [h.unsigned rfl]
      exact Sign.cut_of_unsigned hsign
    | some sign => simp [Sign.text]
  rw [Head.of, hcut, takeWhile_run h.all_blanks hblank, dropWhile_run h.all_blanks hblank,
    takeWhile_run h.all_digits hdigit, dropWhile_run h.all_digits hdigit]

namespace Head

/-- A text that does not start with a blank is taken apart into a number and a rest. -/
theorem isNumber_of {s : Text} (hs : startsWith isBlank s = false) :
    IsNumber (Head.of s).sign (Head.of s).blanks (Head.of s).digits where
  all_blanks := List.all_takeWhile
  unsigned hsign := by
    rw [Head.of, Sign.cut_of_unsigned (Sign.startsWith_of_cut_eq_none hsign)]
    exact takeWhile_eq_nil_of_startsWith hs
  all_digits := List.all_takeWhile

/-- Behind the digits of a head stands no digit. -/
theorem startsWith_rest_of (s : Text) : startsWith Char.isDigit (Head.of s).rest = false :=
  startsWith_dropWhile _ _

/-- What stands behind a number without digits is the whole text behind its sign and blanks. -/
theorem rest_of_digits_eq_nil {s : Text} (h : (Head.of s).digits = []) :
    (Head.of s).rest = unsignedPart s := by
  have happend : (Head.of s).digits ++ (Head.of s).rest = unsignedPart s :=
    List.takeWhile_append_dropWhile
  rw [← happend, h, List.nil_append]

/-- Where no digit stands behind sign and blanks, the head has no digits. -/
theorem digits_of_eq_nil {s : Text} (h : startsWith Char.isDigit (unsignedPart s) = false) :
    (Head.of s).digits = [] :=
  takeWhile_eq_nil_of_startsWith h

/-- A head is that of no dice just if no dice start behind it. -/
theorem dice?_eq_none_iff {head : Head} : head.dice? = none ↔ startsDie head.rest = false := by
  unfold dice? startsDie
  cases head.rest with
  | nil => simp
  | cons mark after =>
    simp only [head?_any]
    cases isDieMark mark && startsWith Char.isDigit after <;> simp

/-- A head is that of no constant just if it has no digits. -/
theorem constant?_eq_none_iff {head : Head} : head.constant? = none ↔ head.digits = [] := by
  unfold constant?
  split <;> simp_all

/-- Dice are found where a number, the letter of a die and a digit stand. -/
theorem dice?_eq_some {head : Head} {mark : Char} {sides : Text}
    (hhead : head.rest = mark :: (sides ++ rest)) (hmark : isDieMark mark = true)
    (hne : sides ≠ []) (hsides : sides.all Char.isDigit = true)
    (hstop : startsWith Char.isDigit rest = false) :
    head.dice? = some (.dice head.sign head.blanks head.digits mark sides, rest) := by
  have hdigit : startsWith Char.isDigit (sides ++ rest) = true := by
    rw [startsWith_append hne, startsWith_run hne hsides]
  rw [dice?, hhead]
  simp only [hmark, head?_any, hdigit, Bool.and_self, if_true, takeWhile_run hsides hstop,
    dropWhile_run hsides hstop]

/-- Dice that are found take all digits of their sides. -/
theorem maximal_of_dice? {head : Head} (hnumber : IsNumber head.sign head.blanks head.digits)
    {p : Token × Text} (h : head.dice? = some p) : Maximal p.1 p.2 := by
  unfold dice? at h
  cases hrest : head.rest with
  | nil => simp [hrest] at h
  | cons mark after =>
    rw [hrest] at h
    simp only [Option.ite_none_right_eq_some, Bool.and_eq_true, Option.some.injEq, head?_any] at h
    obtain ⟨⟨hmark, hafter⟩, rfl⟩ := h
    exact .dice hnumber hmark (takeWhile_ne_nil_of_startsWith hafter) List.all_takeWhile
      (startsWith_dropWhile _ _)

/-- A constant that is found takes all its digits. -/
theorem maximal_of_constant? {s : Text} (hs : startsWith isBlank s = false)
    (hdice : (Head.of s).dice? = none) {p : Token × Text} (h : (Head.of s).constant? = some p) :
    Maximal p.1 p.2 := by
  unfold constant? at h
  simp only [Option.ite_none_left_eq_some, Option.some.injEq] at h
  obtain ⟨hdigits, rfl⟩ := h
  exact .constant (isNumber_of hs) hdigits (startsWith_rest_of s) (dice?_eq_none_iff.mp hdice)

end Head

/-- A run of anything is maximal where neither dice nor a constant is found. -/
theorem maximal_unknownRun {s : Text} (hne : s ≠ []) (hs : startsWith isBlank s = false)
    (hdice : (Head.of s).dice? = none) (hconstant : (Head.of s).constant? = none) :
    Maximal (unknownRun s).1 (unknownRun s).2 := by
  have hdigits := Head.constant?_eq_none_iff.mp hconstant
  have hpart := Head.rest_of_digits_eq_nil hdigits
  have hwhole : s.takeWhile (!isBlank ·) ++ s.dropWhile (!isBlank ·) = s :=
    List.takeWhile_append_dropWhile
  refine .unknown ?_ List.all_takeWhile (startsWith_dropWhile _ _) ?_ ?_
  · apply takeWhile_ne_nil_of_startsWith
    cases s with
    | nil => exact absurd rfl hne
    | cons c s => simpa using hs
  · rw [unknownRun, hwhole, ← hpart]
    exact Head.startsWith_rest_of s
  · rw [unknownRun, hwhole, ← hpart]
    exact Head.dice?_eq_none_iff.mp hdice

/-- Where no gap starts, dice are tried first, then a constant. -/
theorem next_of_inked {c : Char} {s : Text} (h : isBlank c = false) :
    next c s = ((Head.of (c :: s)).dice?.or (Head.of (c :: s)).constant?).getD
      (unknownRun (c :: s)) := by
  simp [next, h]

/-- The token that is cut off is maximal. -/
theorem maximal_next (c : Char) (s : Text) : Maximal (next c s).1 (next c s).2 := by
  cases hblank : isBlank c with
  | true =>
    rw [next, if_pos hblank]
    have hs : startsWith isBlank (c :: s) = true := hblank
    exact .gap (takeWhile_ne_nil_of_startsWith hs) List.all_takeWhile (startsWith_dropWhile _ _)
  | false =>
    have hs : startsWith isBlank (c :: s) = false := hblank
    rw [next_of_inked hblank]
    cases hdice : (Head.of (c :: s)).dice? with
    | some p => exact Head.maximal_of_dice? (Head.isNumber_of hs) hdice
    | none =>
      cases hconstant : (Head.of (c :: s)).constant? with
      | some p => exact Head.maximal_of_constant? hs hdice hconstant
      | none => exact maximal_unknownRun (List.cons_ne_nil c s) hs hdice hconstant

/-- A token of maximal extent has at least one character. -/
theorem Maximal.text_ne_nil {token : Token} (h : Maximal token rest) : token.text ≠ [] := by
  cases h with
  | gap nonempty => exact nonempty
  | dice => simp [text]
  | constant _ nonempty => simp [text, nonempty]
  | unknown nonempty => exact nonempty

/-- Digits are neither blanks nor signs. -/
theorem startsWith_digits_append {p : Char → Bool} (hp : p = isBlank ∨ p = isSignMark)
    (hdigits : digits.all Char.isDigit = true) (hrest : digits = [] → startsWith p rest = false) :
    startsWith p (digits ++ rest) = false := by
  refine startsWith_run_append hdigits (fun c hc => ?_) hrest
  rcases hp with rfl | rfl
  · exact (isDigit_only hc).1
  · exact (isDigit_only hc).2.2

/-- Cutting finds a maximal gap. -/
theorem next_gap {c : Char} {s : Text} (hne : blanks ≠ []) (hblanks : blanks.all isBlank = true)
    (hstop : startsWith isBlank rest = false) (hs : blanks ++ rest = c :: s) :
    next c s = (gap blanks, rest) := by
  have hc : isBlank c = true := by
    have h : startsWith isBlank (blanks ++ rest) = true := by
      rw [startsWith_append hne, startsWith_run hne hblanks]
    simpa [hs] using h
  rw [next, if_pos hc, ← hs, takeWhile_run hblanks hstop, dropWhile_run hblanks hstop]

/-- Cutting finds maximal dice. -/
theorem next_dice {count sides : Text} {mark c : Char} {s : Text}
    (hnumber : IsNumber sign blanks count) (hmark : isDieMark mark = true) (hne : sides ≠ [])
    (hsides : sides.all Char.isDigit = true) (hstop : startsWith Char.isDigit rest = false)
    (hs : Sign.text sign ++ blanks ++ count ++ mark :: (sides ++ rest) = c :: s) :
    next c s = (dice sign blanks count mark sides, rest) := by
  have honly := isDieMark_only hmark
  have hdigit : startsWith Char.isDigit (mark :: (sides ++ rest)) = false := honly.2.1
  have hblank : startsWith isBlank (count ++ mark :: (sides ++ rest)) = false :=
    startsWith_digits_append (.inl rfl) hnumber.all_digits fun _ => honly.1
  have hsign : startsWith isSignMark (count ++ mark :: (sides ++ rest)) = false :=
    startsWith_digits_append (.inr rfl) hnumber.all_digits fun _ => honly.2.2
  have hc : isBlank c = false := by
    have h := hnumber.startsWith_text hblank
    rwa [hs] at h
  rw [next_of_inked hc, ← hs, hnumber.head_of hdigit hblank hsign,
    Head.dice?_eq_some rfl hmark hne hsides hstop]
  rfl

/-- Cutting finds a maximal constant. -/
theorem next_constant {c : Char} {s : Text} (hnumber : IsNumber sign blanks digits)
    (hne : digits ≠ []) (hstop : startsWith Char.isDigit rest = false)
    (hdie : startsDie rest = false) (hs : Sign.text sign ++ blanks ++ digits ++ rest = c :: s) :
    next c s = (constant sign blanks digits, rest) := by
  have hblank : startsWith isBlank (digits ++ rest) = false :=
    startsWith_digits_append (.inl rfl) hnumber.all_digits fun h => absurd h hne
  have hsign : startsWith isSignMark (digits ++ rest) = false :=
    startsWith_digits_append (.inr rfl) hnumber.all_digits fun h => absurd h hne
  have hc : isBlank c = false := by
    have h := hnumber.startsWith_text hblank
    rwa [hs] at h
  rw [next_of_inked hc, ← hs, hnumber.head_of hstop hblank hsign,
    Head.dice?_eq_none_iff.mpr hdie]
  simp [Head.constant?, hne]

/-- Cutting finds a maximal run of anything. -/
theorem next_unknown {run : Text} {c : Char} {s : Text} (hne : run ≠ [])
    (hrun : run.all (!isBlank ·) = true) (hstop : startsWith (!isBlank ·) rest = false)
    (hdigit : startsWith Char.isDigit (unsignedPart (run ++ rest)) = false)
    (hdie : startsDie (unsignedPart (run ++ rest)) = false) (hs : run ++ rest = c :: s) :
    next c s = (unknown run, rest) := by
  have hc : isBlank c = false := by
    have h : startsWith (!isBlank ·) (run ++ rest) = true := by
      rw [startsWith_append hne, startsWith_run hne hrun]
    simpa [hs] using h
  have hdigits := Head.digits_of_eq_nil hdigit
  have hdice : (Head.of (run ++ rest)).dice? = none := by
    rw [Head.dice?_eq_none_iff, Head.rest_of_digits_eq_nil hdigits, hdie]
  rw [next_of_inked hc, ← hs, hdice, Head.constant?_eq_none_iff.mpr hdigits]
  simp only [Option.or_none, Option.getD_none, unknownRun, takeWhile_run hrun hstop,
    dropWhile_run hrun hstop]

/-- Cutting finds the maximal token. -/
theorem next_of_maximal {token : Token} (h : Maximal token rest) {c : Char} {s : Text}
    (hs : token.text ++ rest = c :: s) : next c s = (token, rest) := by
  cases h with
  | gap nonempty all_blanks stop => exact next_gap nonempty all_blanks stop hs
  | dice number is_mark nonempty all_sides stop =>
    exact next_dice number is_mark nonempty all_sides stop (by simpa [text] using hs)
  | constant number nonempty stop no_die => exact next_constant number nonempty stop no_die hs
  | unknown nonempty all_inked stop no_digit no_die =>
    exact next_unknown nonempty all_inked stop no_digit no_die hs

/-- The tokens of a text that starts with a maximal token. -/
theorem scan_append {token : Token} (h : Maximal token rest) :
    scan (token.text ++ rest) = token :: scan rest := by
  cases hs : token.text ++ rest with
  | nil => exact absurd (List.append_eq_nil_iff.mp hs).1 h.text_ne_nil
  | cons c s => rw [scan_cons, next_of_maximal h hs]

/-- What holds of the empty text, and of a text with a maximal token in front whenever it holds of
the rest, holds of every text. -/
theorem scan_induction {motive : Text → Prop} (nil : motive [])
    (cut : ∀ token rest, Maximal token rest → motive rest → motive (token.text ++ rest))
    (s : Text) : motive s := by
  fun_induction scan s with
  | case1 => exact nil
  | case2 c s ih =>
    rw [← text_next c s]
    exact cut _ _ (maximal_next c s) ih

end DiceSum.Token
