import DiceSum.Proofs.Reading.Bounds
import DiceSum.Proofs.Reading.Position

/-!
# What is read

Reading accepts the texts of dice notation and no others, and finds the terms that stand at their
positions (`read_eq_ok_iff`). The proof follows the tokens from left to right: where a token starts, the
text before it ends in nothing that belongs to the token (`Fresh`), and then the token is readable exactly
if its positions are as they should be, and writes the terms that stand at them (`step_of_maximal`).
-/

namespace DiceSum

/-- Nothing at the end of a text belongs to a token that starts behind it. -/
structure Fresh (before after : Text) : Prop where
  ink : ∀ c, lastInk before = some c → isSignMark c = false
  mark : endsWith isDieMark before = false
  digit : endsWith Char.isDigit before = true → startsWith Char.isDigit after = false
  count : Token.startsDie after = true → ownCount before = []

/-- The start of a text is a fresh position. -/
theorem fresh_nil (text : Text) : Fresh [] text where
  ink := by simp [lastInk]
  mark := rfl
  digit := by simp
  count := fun _ => rfl

/-- The count of dice are the digits before the letter if nothing else belongs to them. -/
theorem ownCount_append {before count : Text} (hdigit : endsWith Char.isDigit before = false)
    (hmark : endsWith isDieMark before = false) (hcount : count.all Char.isDigit = true) :
    ownCount (before ++ count) = count := by
  have hreverse : count.reverse.all Char.isDigit = true := by simpa using hcount
  have hfront : endsWith isDieMark before.reverse.reverse = false := by simpa using hmark
  rw [ownCount, trailingDigits, List.reverse_append, dropWhile_run hreverse hdigit,
    takeWhile_run hreverse hdigit, hfront]
  simp

/-- No digits are left for a count behind sides. -/
theorem ownCount_sides {before sides : Text} {mark : Char} (hmark : isDieMark mark = true)
    (hsides : sides.all Char.isDigit = true) : ownCount (before ++ mark :: sides) = [] := by
  have hreverse : sides.reverse.all Char.isDigit = true := by simpa using hsides
  have hstop : startsWith Char.isDigit (mark :: before.reverse) = false := (isDieMark_only hmark).2.1
  have hsplit : (before ++ mark :: sides).reverse = sides.reverse ++ mark :: before.reverse := by simp
  rw [ownCount, hsplit, dropWhile_run hreverse hstop]
  simp [hmark]

/-- The size of a run that no letter of a die precedes is the range of the signed number. -/
theorem sizeFits_iff_signedBy {before : Text} (hmark : endsWith isDieMark before = false) (n : Nat) :
    SizeFits before n ↔
      leastSigned ≤ signedBy before n ∧ signedBy before n ≤ greatestSigned := by
  simp only [SizeFits, hmark, signedBy, leastSigned, greatestSigned, Bool.false_eq_true, if_false]
  split <;> omega

/-- The size of a run behind the letter of a die is the range of sides. -/
theorem sizeFits_sides {before : Text} {mark : Char} (hmark : isDieMark mark = true) (n : Nat) :
    SizeFits (before ++ [mark]) n ↔ 1 ≤ (n : Int) ∧ (n : Int) ≤ greatestSides := by
  simp only [SizeFits, endsWith_concat, hmark, if_true, greatestSides]
  omega

section Start

variable {sign : Option Sign} {blanks digits before rest : Text}

/-- The start of a number passes in front of a digit or the letter of a die. -/
theorem passes_start (h : Token.IsNumber sign blanks digits)
    (hrest : startsWith opensNumber rest = true) :
    Passes before (Sign.text sign ++ blanks) rest := by
  cases sign with
  | none =>
    rw [h.unsigned rfl]
    exact .nil
  | some sign =>
    have hblank : startsWith isBlank rest = false := by
      cases rest with
      | nil => rfl
      | cons c rest =>
        rcases Bool.or_eq_true _ _ ▸ hrest with hc | hc
        · exact (isDigit_only hc).1
        · exact (isDieMark_only hc).1
    refine .append (.sign sign.isSignMark_char ?_) (.blanks h.all_blanks)
    rwa [dropWhile_run h.all_blanks hblank]

/-- A sign and blanks behind it end in neither a digit nor the letter of a die. -/
theorem endsWith_start {p : Char → Bool} (hp : p = Char.isDigit ∨ p = isDieMark)
    (h : Token.IsNumber sign blanks digits) (hbefore : sign = none → endsWith p before = false) :
    endsWith p (before ++ (Sign.text sign ++ blanks)) = false := by
  cases sign with
  | none =>
    rw [h.unsigned rfl]
    simpa [Sign.text] using hbefore rfl
  | some sign =>
    have hall : (Sign.text (some sign) ++ blanks).all (fun c => isBlank c || isSignMark c) = true := by
      have hblanks := List.all_eq_true.mp h.all_blanks
      simp only [Sign.text, List.singleton_append, List.all_cons, sign.isSignMark_char,
        Bool.or_true, Bool.true_and, List.all_eq_true]
      exact fun c hc => by simp [hblanks c hc]
    rw [endsWith_append (by simp [Sign.text])]
    refine endsWith_run hall fun c hc => ?_
    have hcases : isBlank c = true ∨ isSignMark c = true := by simpa using hc
    rcases hp with rfl | rfl <;> rcases hcases with hc | hc
    · exact (isBlank_only hc).1
    · exact (isSignMark_only hc).2.1
    · exact (isBlank_only hc).2.1
    · exact (isSignMark_only hc).2.2

/-- The sign in front of a number is its own. -/
theorem signedBy_start (h : Token.IsNumber sign blanks digits)
    (hink : ∀ c, lastInk before = some c → isSignMark c = false) (n : Nat) :
    signedBy (before ++ (Sign.text sign ++ blanks)) n = Sign.apply sign n := by
  rw [signedBy, ← List.append_assoc, lastInk_append_blanks h.all_blanks]
  cases sign with
  | none =>
    have hminus : lastInk before ≠ some '-' := by
      intro hlast
      have hsign := hink '-' hlast
      simp [isSignMark] at hsign
    simp [Sign.text, hminus, Sign.apply]
  | some sign => cases sign <;> simp [Sign.text, lastInk_concat, isBlank, Sign.char, Sign.apply]

end Start

/-- What the first token of a text contributes, and what is left to its rest. -/
structure Step (before : Text) (token : Token) (rest : Text) : Prop where
  fits : FitsFrom before (token.text ++ rest) ↔
    token.IsReadable ∧ FitsFrom (before ++ token.text) rest
  terms : FitsFrom before (token.text ++ rest) →
    termsFrom before (token.text ++ rest) = token.written ++ termsFrom (before ++ token.text) rest

section Steps

variable {sign : Option Sign} {blanks before rest : Text}

/-- A gap asks for nothing and writes no term. -/
theorem step_gap (h : blanks.all isBlank = true) : Step before (.gap blanks) rest where
  fits := by simp [(Passes.blanks h).fits, Token.text, Token.IsReadable, Token.written]
  terms _ := by simp [(Passes.blanks h).terms, Token.text, Token.written]

/-- Where the letter of a die stands and fits, dice start. -/
theorem startsWith_mark_of_fits (hfits : FitsFrom before rest) (hdie : Token.startsDie rest = false) :
    startsWith isDieMark rest = false := by
  cases rest with
  | nil => rfl
  | cons c rest =>
    cases hc : isDieMark c with
    | false => exact hc
    | true =>
      have hdigit := ((fitsFrom_mark hc).mp hfits).1
      simp [Token.startsDie, hc, hdigit] at hdie

/-- Digits open a number. -/
theorem opensNumber_digits_append {digits : Text} (hne : digits ≠ [])
    (hdigits : digits.all Char.isDigit = true) (rest : Text) :
    startsWith opensNumber (digits ++ rest) = true := by
  rw [startsWith_append hne]
  exact startsWith_mono (fun c hc => by simp [opensNumber, hc]) (startsWith_run hne hdigits)

/-- No digit stands right before the digits of a number. -/
theorem endsWith_start_digit {digits : Text} (number : Token.IsNumber sign blanks digits)
    (hne : digits ≠ []) (hfresh : Fresh before (Sign.text sign ++ blanks ++ digits ++ rest)) :
    endsWith Char.isDigit (before ++ (Sign.text sign ++ blanks)) = false := by
  refine endsWith_start (.inl rfl) number fun hsign => ?_
  cases hend : endsWith Char.isDigit before with
  | false => rfl
  | true =>
    have hstart := hfresh.digit hend
    rw [hsign, number.unsigned hsign, List.append_assoc] at hstart
    have hrun : startsWith Char.isDigit (digits ++ rest) = true := by
      rw [startsWith_append hne, startsWith_run hne number.all_digits]
    exact absurd hrun (by simpa [Sign.text] using hstart)

/-- A constant is a run of digits behind its sign. -/
theorem step_constant {digits : Text} (number : Token.IsNumber sign blanks digits)
    (hne : digits ≠ []) (hstop : startsWith Char.isDigit rest = false)
    (hdie : Token.startsDie rest = false)
    (hfresh : Fresh before (Sign.text sign ++ blanks ++ digits ++ rest)) :
    Step before (.constant sign blanks digits) rest := by
  have hpasses : Passes before (Sign.text sign ++ blanks) (digits ++ rest) :=
    passes_start number (opensNumber_digits_append hne number.all_digits rest)
  have hmark := endsWith_start (.inr rfl) number fun _ => hfresh.mark
  have hdigit := endsWith_start_digit number hne hfresh
  have hsigned := signedBy_start number hfresh.ink (Decimal.value digits)
  have htext : (Token.constant sign blanks digits).text = Sign.text sign ++ blanks ++ digits := rfl
  have hfits : FitsFrom before ((Token.constant sign blanks digits).text ++ rest) ↔
      (Token.constant sign blanks digits).IsReadable ∧
        FitsFrom (before ++ (Token.constant sign blanks digits).text) rest := by
    rw [htext, List.append_assoc, hpasses.fits, fitsFrom_run hne number.all_digits hdigit hstop,
      sizeFits_iff_signedBy hmark, hsigned]
    simp [Token.IsReadable, Token.written, Term.InBounds]
  refine ⟨hfits, fun hall => ?_⟩
  have hrest : startsWith isDieMark rest = false :=
    startsWith_mark_of_fits (hfits.mp hall).2 hdie
  rw [htext, List.append_assoc, hpasses.terms, termsFrom_run hne number.all_digits hdigit hstop,
    hmark, hrest, hsigned]
  simp [Token.written]

/-- A count, if there is one, asks for its size and writes nothing of its own. -/
theorem count_step (rest : Text) {count : Text} {mark : Char} (hmark : isDieMark mark = true)
    (hcount : count.all Char.isDigit = true) (hend : endsWith isDieMark before = false)
    (hdigit : count ≠ [] → endsWith Char.isDigit before = false) :
    (FitsFrom before (count ++ mark :: rest) ↔
      (leastSigned ≤ signedBy before (countValue count) ∧
        signedBy before (countValue count) ≤ greatestSigned) ∧
      FitsFrom (before ++ count) (mark :: rest)) ∧
    termsFrom before (count ++ mark :: rest) = termsFrom (before ++ count) (mark :: rest) := by
  by_cases hne : count = []
  · subst hne
    have hone : leastSigned ≤ signedBy before 1 ∧ signedBy before 1 ≤ greatestSigned := by
      rw [← sizeFits_iff_signedBy hend]
      simp only [SizeFits, hend, Bool.false_eq_true, if_false]
      split <;> decide
    simp [countValue, hone]
  · have hstop : startsWith Char.isDigit (mark :: rest) = false := (isDieMark_only hmark).2.1
    rw [fitsFrom_run hne hcount (hdigit hne) hstop, sizeFits_iff_signedBy hend,
      termsFrom_run hne hcount (hdigit hne) hstop, startsWith_cons, hmark]
    simp [countValue, hne]

/-- The dice at the letter of a die are the ones that the token writes. -/
theorem diceAt_append {count sides : Text} (hown : ownCount (before ++ count) = count)
    (hsides : sides.all Char.isDigit = true) (hstop : startsWith Char.isDigit rest = false) :
    diceAt (before ++ count) (sides ++ rest) =
      .dice (signedBy before (countValue count)) (Decimal.value sides) := by
  have hfront : (before ++ count).take ((before ++ count).length - count.length) = before := by
    simp
  rw [diceAt, hown, hfront, takeWhile_run hsides hstop, countValue]

/-- The digits of a count are the own ones of its dice. -/
theorem ownCount_start {count sides : Text} {mark : Char} (number : Token.IsNumber sign blanks count)
    (hmark : isDieMark mark = true) (hne : sides ≠ []) (hsides : sides.all Char.isDigit = true)
    (hfresh : Fresh before (Sign.text sign ++ blanks ++ count ++ mark :: (sides ++ rest))) :
    ownCount (before ++ (Sign.text sign ++ blanks) ++ count) = count := by
  cases hend : endsWith Char.isDigit (before ++ (Sign.text sign ++ blanks)) with
  | false =>
    have hendMark := endsWith_start (.inr rfl) number fun _ => hfresh.mark
    exact ownCount_append hend hendMark number.all_digits
  | true =>
    -- A digit right before the dice belongs to the sides of other dice.
    have hempty : count = [] := Decidable.byContradiction fun hcount => by
      rw [endsWith_start_digit number hcount hfresh] at hend
      cases hend
    have hsign : sign = none := Decidable.byContradiction fun hsome => by
      rw [endsWith_start (.inl rfl) number fun h => absurd h hsome] at hend
      cases hend
    have hdie : Token.startsDie (mark :: (sides ++ rest)) = true := by
      simp [Token.startsDie, hmark, startsWith_append hne, startsWith_run hne hsides]
    have hcount := hfresh.count
    rw [hempty, hsign, number.unsigned hsign] at hcount ⊢
    simpa [Sign.text] using hcount hdie

/-- Dice are a run of digits behind their sign, the letter, and another run of digits. -/
theorem step_dice {count sides : Text} {mark : Char} (number : Token.IsNumber sign blanks count)
    (hmark : isDieMark mark = true) (hne : sides ≠ []) (hsides : sides.all Char.isDigit = true)
    (hstop : startsWith Char.isDigit rest = false)
    (hfresh : Fresh before (Sign.text sign ++ blanks ++ count ++ mark :: (sides ++ rest))) :
    Step before (.dice sign blanks count mark sides) rest := by
  have hfirst : startsWith opensNumber (count ++ mark :: (sides ++ rest)) = true := by
    by_cases hempty : count = []
    · simp [hempty, opensNumber, hmark]
    · exact opensNumber_digits_append hempty number.all_digits _
  have hpasses : Passes before (Sign.text sign ++ blanks) (count ++ mark :: (sides ++ rest)) :=
    passes_start number hfirst
  have hend := endsWith_start (.inr rfl) number fun _ => hfresh.mark
  have hdigit := fun hne => endsWith_start_digit number hne hfresh
  have hown : ownCount (before ++ (Sign.text sign ++ blanks) ++ count) = count :=
    ownCount_start number hmark hne hsides hfresh
  have hsigned := signedBy_start number hfresh.ink (countValue count)
  obtain ⟨hfits, hterms⟩ := count_step (sides ++ rest) hmark number.all_digits hend hdigit
  have hbefore : endsWith Char.isDigit (before ++ (Sign.text sign ++ blanks) ++ count ++ [mark]) =
      false := by
    rw [endsWith_concat]
    exact (isDieMark_only hmark).2.1
  have hsidesFirst : startsWith Char.isDigit (sides ++ rest) = true := by
    rw [startsWith_append hne, startsWith_run hne hsides]
  have htext : (Token.dice sign blanks count mark sides).text ++ rest =
      Sign.text sign ++ blanks ++ (count ++ mark :: (sides ++ rest)) := by
    simp [Token.text]
  have hbehind : before ++ (Token.dice sign blanks count mark sides).text =
      before ++ (Sign.text sign ++ blanks) ++ count ++ [mark] ++ sides := by
    simp [Token.text]
  constructor
  · rw [htext, hbehind, hpasses.fits, hfits, fitsFrom_mark hmark, hsidesFirst,
      fitsFrom_run hne hsides hbefore hstop, sizeFits_sides hmark, hsigned]
    simp [Token.IsReadable, Token.written, Term.InBounds, and_assoc]
  · intro _
    rw [htext, hbehind, hpasses.terms, hterms, termsFrom_mark hmark,
      termsFrom_run hne hsides hbefore hstop, diceAt_append hown hsides hstop, hsigned,
      endsWith_concat, hmark]
    simp [Token.written]

/-- Nothing else than dice and constants fits. -/
theorem not_fitsFrom_unknown {run : Text} (hne : run ≠ []) (hinked : run.all (!isBlank ·) = true)
    (hdigit : startsWith Char.isDigit (Token.unsignedPart (run ++ rest)) = false)
    (hdie : Token.startsDie (Token.unsignedPart (run ++ rest)) = false) :
    ¬ FitsFrom before (run ++ rest) := by
  obtain ⟨c, run, rfl⟩ := List.exists_cons_of_ne_nil hne
  have hc : isBlank c = false := by simp_all
  rw [List.cons_append] at hdigit hdie ⊢
  intro hfits
  cases hsign : isSignMark c with
  | false =>
    have hunsigned : startsWith isSignMark (c :: (run ++ rest)) = false := hsign
    have hpart : Token.unsignedPart (c :: (run ++ rest)) = c :: (run ++ rest) := by
      rw [Token.unsignedPart, Sign.cut_of_unsigned hunsigned]
      exact List.dropWhile_cons_of_neg (by simp [hc])
    rw [hpart] at hdigit hdie
    have hmark : isDieMark c = false := startsWith_mark_of_fits hfits hdie
    have hknown := hfits.1.known
    simp_all
  | true =>
    obtain ⟨sign, rfl⟩ := Sign.exists_char hsign
    have hpart : Token.unsignedPart (sign.char :: (run ++ rest)) =
        (run ++ rest).dropWhile isBlank := by
      rw [Token.unsignedPart, Sign.cut_cons]
    rw [hpart] at hdigit hdie
    have hnext := fitsFrom_sign hsign hfits
    -- Behind the sign and blanks only the letter of a die is left, and no digit follows it.
    have hbehind := hfits.2
    rw [← List.takeWhile_append_dropWhile (p := isBlank) (l := run ++ rest),
      (Passes.blanks List.all_takeWhile).fits] at hbehind
    have hmark := startsWith_mark_of_fits hbehind hdie
    cases hbehindBlanks : (run ++ rest).dropWhile isBlank with
    | nil => simp [hbehindBlanks] at hnext
    | cons d part =>
      rw [hbehindBlanks] at hnext hmark hdigit
      simp_all [opensNumber]

/-- Every token steps over its own positions. -/
theorem step_of_maximal {token : Token} (h : Token.Maximal token rest)
    (hfresh : Fresh before (token.text ++ rest)) : Step before token rest := by
  cases h with
  | gap nonempty all_blanks stop => exact step_gap all_blanks
  | dice number is_mark nonempty all_sides stop =>
    exact step_dice number is_mark nonempty all_sides stop (by simpa [Token.text] using hfresh)
  | constant number nonempty stop no_die => exact step_constant number nonempty stop no_die hfresh
  | @unknown run rest nonempty all_inked stop no_digit no_die =>
    have hnot : ¬ FitsFrom before ((Token.unknown run).text ++ rest) :=
      not_fitsFrom_unknown nonempty all_inked no_digit no_die
    exact ⟨⟨fun hfits => absurd hfits hnot, fun h => absurd h.1 id⟩, fun hfits => absurd hfits hnot⟩

/-- Nothing but other digits belongs to digits that a text ends in. -/
theorem fresh_of_digits {digits : Text} (hne : digits ≠ [])
    (hdigits : digits.all Char.isDigit = true) (hstop : startsWith Char.isDigit rest = false)
    (hcount : Token.startsDie rest = true → ownCount (before ++ digits) = []) :
    Fresh (before ++ digits) rest := by
  obtain ⟨front, c, rfl⟩ : ∃ front c, digits = front ++ [c] :=
    ⟨digits.dropLast, digits.getLast hne, (List.dropLast_concat_getLast hne).symm⟩
  have honly : isBlank c = false ∧ isDieMark c = false ∧ isSignMark c = false :=
    isDigit_only (by simp_all)
  refine ⟨fun d hd => ?_, ?_, fun _ => hstop, hcount⟩
  · rw [← List.append_assoc, lastInk_concat honly.1] at hd
    exact Option.some.inj hd ▸ honly.2.2
  · rw [← List.append_assoc, endsWith_concat]
    exact honly.2.1

/-- Behind a token that is read, a new token can start. -/
theorem fresh_of_maximal {token : Token} (h : Token.Maximal token rest)
    (hreadable : token.IsReadable) (hfresh : Fresh before (token.text ++ rest)) :
    Fresh (before ++ token.text) rest := by
  cases h with
  | @gap blanks rest nonempty all_blanks stop =>
    have hend {p : Char → Bool} (hp : ∀ c, isBlank c = true → p c = false) :
        endsWith p (before ++ blanks) = false := by
      rw [endsWith_append nonempty]
      exact endsWith_run all_blanks hp
    have hdigit := hend fun c hc => (isBlank_only hc).1
    have hmark := hend fun c hc => (isBlank_only hc).2.1
    refine ⟨?_, hmark, fun h => absurd h (by simp [Token.text, hdigit]), fun _ => ?_⟩
    · rw [Token.text, lastInk_append_blanks all_blanks]
      exact hfresh.ink
    · have hown : ownCount (before ++ blanks ++ []) = [] := ownCount_append hdigit hmark rfl
      rwa [List.append_nil] at hown
  | @dice sign blanks count sides rest mark number is_mark nonempty all_sides stop =>
    have htext : before ++ (Token.dice sign blanks count mark sides).text =
        before ++ (Sign.text sign ++ blanks ++ count) ++ [mark] ++ sides := by
      simp [Token.text]
    rw [htext]
    refine fresh_of_digits nonempty all_sides stop fun _ => ?_
    rw [List.append_assoc _ [mark]]
    exact ownCount_sides is_mark all_sides
  | @constant sign blanks digits rest number nonempty stop no_die =>
    rw [Token.text, ← List.append_assoc]
    exact fresh_of_digits nonempty number.all_digits stop fun hdie => by simp [no_die] at hdie
  | unknown => exact absurd hreadable id

end Steps

/-- The positions of a text are as they should be exactly if its tokens are readable, and then the terms
at the positions are the ones that the tokens write. -/
theorem fitsFrom_iff_readable (before text : Text) (hfresh : Fresh before text) :
    (FitsFrom before text ↔ ∀ token ∈ Token.scan text, token.IsReadable) ∧
      (FitsFrom before text →
        termsFrom before text = (Token.scan text).flatMap Token.written) := by
  induction text using Token.scan_induction generalizing before with
  | nil => simp [FitsFrom, termsFrom]
  | cut token rest h ih =>
    have hstep := step_of_maximal h hfresh
    rw [Token.scan_append h, hstep.fits, List.forall_mem_cons, List.flatMap_cons]
    by_cases hreadable : token.IsReadable
    · obtain ⟨hfits, hterms⟩ := ih _ (fresh_of_maximal h hreadable hfresh)
      refine ⟨by rw [hfits], fun hboth => ?_⟩
      rw [hstep.terms (hstep.fits.mpr hboth), hterms hboth.2]
    · simp [hreadable]

/-- A text that is read is one of dice notation. -/
theorem isWritten_of_read {text : Text} {terms : List Term} (h : read text = .ok terms) :
    IsWritten text := by
  rw [isWritten_iff_fitsFrom, (fitsFrom_iff_readable [] text (fresh_nil text)).1]
  exact (read_eq_ok_iff_readable.mp h).1

/-- Reading accepts exactly the texts of dice notation, and finds the terms that stand in them. -/
theorem read_eq_ok_iff (text : Text) (terms : List Term) :
    read text = .ok terms ↔ IsWritten text ∧ termsIn text = terms := by
  obtain ⟨hfits, hterms⟩ := fitsFrom_iff_readable [] text (fresh_nil text)
  rw [read_eq_ok_iff_readable, isWritten_iff_fitsFrom, termsIn_eq_termsFrom, hfits]
  constructor
  · rintro ⟨hreadable, hwritten⟩
    exact ⟨hreadable, (hterms (hfits.mpr hreadable)).trans hwritten⟩
  · rintro ⟨hreadable, hterm⟩
    exact ⟨hreadable, (hterms (hfits.mpr hreadable)).symm.trans hterm⟩

-- The digits between two letters are sides, and blanks do not part a sign from its number.
example : termsIn "5d6d7 - 3".toList = [.dice 5 6, .dice 1 7, .constant (-3)] := by
  decide

end DiceSum
