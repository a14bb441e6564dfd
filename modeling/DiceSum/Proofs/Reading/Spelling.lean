import DiceSum.Proofs.Text.Spelling
import DiceSum.Proofs.Reading.Verdict

/-!
# Spelling does not matter

The same sum can be spelt in many ways: with small or capital letters for dice, with any blanks between
terms and around signs, with leading zeros. Texts with the same plain spelling have the same verdict
(`read_of_plain_eq`), whether they are accepted or not.

Each of the four changes that make a text plain keeps the verdict. Letters and zeros are changed within
tokens, so there the tokens of a text are followed one by one. Blanks are changed between tokens and
inside them, and a run of anything may grow when they go; there the text behind the blanks is exchanged as
a whole, whatever stands before them.
-/

namespace DiceSum

open Token

/-- A change that leaves blanks and signs as they are and changes dice and constants into others that are
read alike. -/
structure Respells (g : Text → Text) : Prop where
  nil : g [] = []
  stays : ∀ c s, isBlank c = true ∨ isSignMark c = true → g (c :: s) = c :: g s
  start : ∀ p, IsCoarse p → ∀ s, startsWith p (g s) = startsWith p s
  die : ∀ s, startsDie (g s) = startsDie s
  token : ∀ token rest, Token.Maximal token rest → token.written ≠ [] →
    ∃ other, Token.Maximal other (g rest) ∧ g (token.text ++ rest) = other.text ++ g rest ∧
      other.terms magnitude = token.terms magnitude

namespace Respells

variable {g : Text → Text}

/-- Blanks at the start stay as they are. -/
theorem blanks (h : Respells g) {blanks : Text} (hall : blanks.all isBlank = true) (s : Text) :
    g (blanks ++ s) = blanks ++ g s := by
  induction blanks with
  | nil => rfl
  | cons c blanks ih =>
    simp only [List.all_cons, Bool.and_eq_true] at hall
    rw [List.cons_append, h.stays c _ (.inl hall.1), ih hall.2, List.cons_append]

/-- Leaving out the blanks at the start commutes with such a change. -/
theorem dropWhile_isBlank (h : Respells g) (s : Text) :
    (g s).dropWhile isBlank = g (s.dropWhile isBlank) := by
  have hall : (s.takeWhile isBlank).all isBlank = true := List.all_takeWhile
  have hstop : startsWith isBlank (g (s.dropWhile isBlank)) = false := by
    rw [h.start _ isCoarse_isBlank, startsWith_dropWhile]
  conv_lhs => rw [← List.takeWhile_append_dropWhile (p := isBlank) (l := s), h.blanks hall]
  exact dropWhile_run hall hstop

/-- Leaving out a sign and blanks commutes with such a change. -/
theorem unsignedPart (h : Respells g) (s : Text) : unsignedPart (g s) = g (unsignedPart s) := by
  cases hsigned : startsWith isSignMark s with
  | true =>
    obtain ⟨sign, rest, rfl⟩ := Sign.exists_cons hsigned
    rw [h.stays _ _ (.inr sign.isSignMark_char), unsignedPart_sign, unsignedPart_sign,
      h.dropWhile_isBlank]
  | false =>
    have hother : startsWith isSignMark (g s) = false := by rwa [h.start _ isCoarse_isSignMark]
    rw [unsignedPart_unsigned hsigned, unsignedPart_unsigned hother, h.dropWhile_isBlank]

/-- A text that starts with a run of anything still does after such a change. -/
theorem startsUnknown (h : Respells g) {s : Text} (hs : StartsUnknown s) : StartsUnknown (g s) where
  inked := by
    rw [h.start _ isCoarse_isBlank.not]
    exact hs.inked
  no_digit := by
    rw [h.unsignedPart, h.start _ isCoarse_isDigit]
    exact hs.no_digit
  no_die := by
    rw [h.unsignedPart, h.die]
    exact hs.no_die

/-- A change within tokens keeps the verdict. -/
theorem verdict_eq (h : Respells g) (text : Text) : verdict (g text) = verdict text := by
  induction text using verdict_induction with
  | nil => rw [h.nil]
  | blanks blanks rest hall ih => rw [h.blanks hall, verdict_blanks hall, verdict_blanks hall, ih]
  | unknown text hunknown => rw [hunknown.verdict_eq, (h.startsUnknown hunknown).verdict_eq]
  | written token rest hmaximal hwritten ih =>
    obtain ⟨other, hother, htext, hterms⟩ := h.token token rest hmaximal hwritten
    rw [htext]
    exact verdict_eq_of_maximal hother hmaximal hterms ih

end Respells

/-- The start of a number stays as it is. -/
theorem Token.IsNumber.map_smallMark {sign : Option Sign} {blanks digits : Text}
    (h : IsNumber sign blanks digits) :
    (Sign.text sign ++ blanks ++ digits).map smallMark = Sign.text sign ++ blanks ++ digits := by
  rw [List.map_append, List.map_append, map_smallMark_sign, map_smallMark_of_all rfl h.all_blanks,
    map_smallMark_of_all rfl h.all_digits]

/-- Small letters for dice neither start nor hide dice. -/
theorem startsDie_map_smallMark (s : Text) : startsDie (s.map smallMark) = startsDie s := by
  cases s with
  | nil => rfl
  | cons mark after =>
    rw [List.map_cons, startsDie, startsDie, isCoarse_isDieMark.smallMark,
      startsWith_map_smallMark isCoarse_isDigit]

/-- Small letters change dice in their letter alone. -/
theorem respells_smallMark : Respells (·.map smallMark) where
  nil := rfl
  stays c s hc := by
    have hne : c ≠ 'D' := by
      rintro rfl
      revert hc
      decide
    change (c :: s).map smallMark = c :: s.map smallMark
    rw [List.map_cons, smallMark, if_neg hne]
  start _ hp s := startsWith_map_smallMark hp s
  die := startsDie_map_smallMark
  token token rest hmaximal hwritten := by
    have hrest : startsWith Char.isDigit rest = false →
        startsWith Char.isDigit (rest.map smallMark) = false := fun hstop => by
      rwa [startsWith_map_smallMark isCoarse_isDigit]
    cases hmaximal with
    | gap => exact absurd rfl hwritten
    | @dice sign blanks count sides rest mark number is_mark nonempty all_sides stop =>
      refine ⟨.dice sign blanks count (smallMark mark) sides, .dice number ?_ nonempty all_sides
        (hrest stop), ?_, rfl⟩
      · rwa [isCoarse_isDieMark.smallMark]
      · simp only [Token.text, List.map_append, List.map_cons]
        rw [← List.map_append, ← List.map_append, number.map_smallMark,
          map_smallMark_of_all rfl all_sides]
    | @constant sign blanks digits rest number nonempty stop no_die =>
      refine ⟨.constant sign blanks digits, .constant number nonempty (hrest stop) ?_, ?_, rfl⟩
      · rwa [startsDie_map_smallMark]
      · rw [Token.text, List.map_append, number.map_smallMark]
    | unknown => exact absurd rfl hwritten

section Zeros

variable {s t : Text}

/-- What is left of a run of digits without its leading zeros does not change. -/
theorem significant_dropLeadingZeros (hs : s.all Char.isDigit = true) :
    significant (dropLeadingZeros false s) = significant s := by
  induction s with
  | nil => rfl
  | cons c s ih =>
    simp only [List.all_cons, Bool.and_eq_true] at hs
    rw [dropLeadingZeros]
    split
    · rename_i h
      obtain ⟨rfl, -, -⟩ := h
      rw [ih hs.2]
      rfl
    · rw [hs.1, dropLeadingZeros_inside hs.2]

/-- A number without its leading zeros has the same magnitude. -/
theorem magnitude_dropLeadingZeros (hs : s.all Char.isDigit = true) (field : Field) :
    magnitude field (dropLeadingZeros false s) = magnitude field s := by
  rw [magnitude, magnitude, significant_dropLeadingZeros hs]

/-- A count without its leading zeros is the same number of dice. -/
theorem countMagnitude_dropLeadingZeros (hs : s.all Char.isDigit = true) :
    countMagnitude magnitude (dropLeadingZeros false s) = countMagnitude magnitude s := by
  rw [countMagnitude, countMagnitude, magnitude_dropLeadingZeros hs]
  simp only [dropLeadingZeros_eq_nil_iff]

/-- Leaving out leading zeros neither starts nor hides dice. -/
theorem startsDie_dropLeadingZeros (s : Text) : startsDie (dropLeadingZeros false s) = startsDie s := by
  have hmark := startsWith_dropLeadingZeros isCoarse_isDieMark s
  cases s with
  | nil => rfl
  | cons c s =>
    cases hc : c.isDigit with
    | false =>
      rw [dropLeadingZeros_cons_of_not_digit hc, startsDie, startsDie,
        startsWith_dropLeadingZeros isCoarse_isDigit]
    | true =>
      have hnone : startsWith isDieMark (c :: s) = false := (isDigit_only hc).2.1
      have hleft : ∀ t : Text, startsWith isDieMark t = false → startsDie t = false := by
        intro t ht
        cases t with
        | nil => rfl
        | cons mark after =>
          have hfirst : isDieMark mark = false := ht
          simp [startsDie, hfirst]
      rw [hleft _ hnone, hleft _ (hmark.trans hnone)]

/-- No digit stands before the digits of a number. -/
theorem Token.IsNumber.not_digit_of_mem_front {sign : Option Sign} {blanks digits : Text}
    (h : IsNumber sign blanks digits) : ∀ c ∈ Sign.text sign ++ blanks, c.isDigit = false := by
  intro c hc
  rcases List.mem_append.mp hc with hsign | hblank
  · cases sign with
    | none => simp [Sign.text] at hsign
    | some sign =>
      obtain rfl := List.mem_singleton.mp hsign
      exact (isSignMark_only sign.isSignMark_char).2.1
  · exact (isBlank_only (List.all_eq_true.mp h.all_blanks c hblank)).1

/-- A number loses leading zeros among its digits alone. -/
theorem Token.IsNumber.dropLeadingZeros_append {sign : Option Sign} {blanks digits : Text}
    (h : IsNumber sign blanks digits) (ht : startsWith Char.isDigit t = false) :
    dropLeadingZeros false (Sign.text sign ++ blanks ++ digits ++ t) =
      Sign.text sign ++ blanks ++ dropLeadingZeros false digits ++ dropLeadingZeros false t := by
  rw [DiceSum.dropLeadingZeros_append ht, dropLeadingZeros_front h.not_digit_of_mem_front]

/-- A number without its leading zeros is one. -/
theorem Token.IsNumber.dropLeadingZeros {sign : Option Sign} {blanks digits : Text}
    (h : IsNumber sign blanks digits) : IsNumber sign blanks (dropLeadingZeros false digits) where
  all_blanks := h.all_blanks
  unsigned := h.unsigned
  all_digits := all_dropLeadingZeros h.all_digits

/-- Without leading zeros, numbers have the same magnitude. -/
theorem respells_dropLeadingZeros : Respells (dropLeadingZeros false) where
  nil := rfl
  stays c s hc := by
    refine dropLeadingZeros_cons_of_not_digit ?_ false s
    rcases hc with hblank | hsign
    · exact (isBlank_only hblank).1
    · exact (isSignMark_only hsign).2.1
  start _ hp s := startsWith_dropLeadingZeros hp s
  die := startsDie_dropLeadingZeros
  token token rest hmaximal hwritten := by
    have hrest : startsWith Char.isDigit rest = false →
        startsWith Char.isDigit (DiceSum.dropLeadingZeros false rest) = false := fun hstop => by
      rwa [startsWith_dropLeadingZeros isCoarse_isDigit]
    cases hmaximal with
    | gap => exact absurd rfl hwritten
    | @dice sign blanks count sides rest mark number is_mark nonempty all_sides stop =>
      have hmark : mark.isDigit = false := (isDieMark_only is_mark).2.1
      have hmarked : startsWith Char.isDigit (mark :: (sides ++ rest)) = false := hmark
      refine ⟨.dice sign blanks (DiceSum.dropLeadingZeros false count) mark
        (DiceSum.dropLeadingZeros false sides),
        .dice number.dropLeadingZeros is_mark (by rwa [ne_eq, dropLeadingZeros_eq_nil_iff])
          (all_dropLeadingZeros all_sides) (hrest stop), ?_, ?_⟩
      · have hwhole := number.dropLeadingZeros_append hmarked
        rw [dropLeadingZeros_cons_of_not_digit hmark, DiceSum.dropLeadingZeros_append stop] at hwhole
        simpa [Token.text] using hwhole
      · rw [Token.terms, Token.terms, readDice, readDice,
          countMagnitude_dropLeadingZeros number.all_digits, magnitude_dropLeadingZeros all_sides]
    | @constant sign blanks digits rest number nonempty stop no_die =>
      refine ⟨.constant sign blanks (DiceSum.dropLeadingZeros false digits),
        .constant number.dropLeadingZeros (by rwa [ne_eq, dropLeadingZeros_eq_nil_iff]) (hrest stop)
          (by rwa [startsDie_dropLeadingZeros]), ?_, ?_⟩
      · exact number.dropLeadingZeros_append stop
      · rw [Token.terms, Token.terms, readConstant, readConstant,
          magnitude_dropLeadingZeros number.all_digits]
    | unknown => exact absurd rfl hwritten

end Zeros

/-- A blank in front of what opens no number may go, wherever it stands. -/
theorem verdict_append_blank {c : Char} (hc : isBlank c = true) {s : Text}
    (hs : startsWith opensNumber s = false) (x : Text) : verdict (x ++ c :: s) = verdict (x ++ s) := by
  have hall : [c].all isBlank = true := by simp [hc]
  exact verdict_append_blanks_congr hall List.all_nil (opensNumber_blanks (by simp) hall s) hs x

/-- One blank is as good as another. -/
theorem verdict_append_space {c : Char} (hc : isBlank c = true) (s x : Text) :
    verdict (x ++ ' ' :: s) = verdict (x ++ c :: s) := by
  have hspace : [' '].all isBlank = true := rfl
  have hall : [c].all isBlank = true := by simp [hc]
  exact verdict_append_blanks_congr hspace hall (opensNumber_blanks (by simp) hspace s)
    (opensNumber_blanks (by simp) hall s) x

/-- A single space for every run of blanks keeps the verdict. -/
theorem verdict_collapseBlanks (x s : Text) : verdict (x ++ collapseBlanks s) = verdict (x ++ s) := by
  induction s generalizing x with
  | nil => rfl
  | cons c s ih =>
    rw [collapseBlanks]
    split_ifs with hblank hmore
    · have hs : startsWith opensNumber s = false := by
        cases s with
        | nil => rfl
        | cons d s => simp [opensNumber, isBlank_only (c := d) hmore]
      rw [ih, verdict_append_blank hblank hs]
    · have hnext := ih (x ++ [' '])
      rw [List.append_assoc, List.append_assoc] at hnext
      exact hnext.trans (verdict_append_space hblank s x)
    · have hnext := ih (x ++ [c])
      rwa [List.append_assoc, List.append_assoc] at hnext

/-- An idle space may go. -/
theorem verdict_append_idle {x s : Text} {before : Option Char} (hstart : before = none → x = [])
    (hsign : ∀ c, before = some c → isSignMark c = true → ∃ front, x = front ++ [c])
    (hidle : (isEdge before || isEdge s.head?) = true) : verdict (x ++ ' ' :: s) = verdict (x ++ s) := by
  have hspace : [' '].all isBlank = true := rfl
  rcases Bool.or_eq_true _ _ ▸ hidle with hbefore | hafter
  · cases before with
    | none =>
      obtain rfl := hstart rfl
      exact verdict_blanks hspace s
    | some c =>
      obtain ⟨front, rfl⟩ := hsign c rfl hbefore
      obtain ⟨sign, rfl⟩ := Sign.exists_char hbefore
      rw [List.append_assoc, List.append_assoc]
      exact verdict_append_sign_blanks sign hspace s front
  · refine verdict_append_blank rfl ?_ x
    cases s with
    | nil => rfl
    | cons c s =>
      have hmark : isSignMark c = true := hafter
      obtain ⟨sign, rfl⟩ := Sign.exists_char hmark
      exact opensNumber_sign sign s

/-- Without idle spaces the verdict is the same. -/
theorem verdict_dropIdleSpaces (x : Text) (before : Option Char) (hstart : before = none → x = [])
    (hsign : ∀ c, before = some c → isSignMark c = true → ∃ front, x = front ++ [c]) (s : Text) :
    verdict (x ++ dropIdleSpaces before s) = verdict (x ++ s) := by
  induction s generalizing x before with
  | nil => rfl
  | cons c s ih =>
    rw [dropIdleSpaces]
    split_ifs with h
    · obtain ⟨rfl, hidle⟩ := h
      have hspace : ∀ c, some ' ' = some c → isSignMark c = true → ∃ front, x = front ++ [c] := by
        intro c hc hmark
        obtain rfl := Option.some.inj hc
        cases hmark
      rw [ih x (some ' ') (by simp) hspace, verdict_append_idle hstart hsign hidle]
    · have hnext := ih (x ++ [c]) (some c) (by simp) fun d hd _ => ⟨x, by rw [Option.some.inj hd]⟩
      rwa [List.append_assoc, List.append_assoc] at hnext

/-- The plain spelling of a text has the verdict of the text. -/
theorem verdict_plain (text : Text) : verdict (plain text) = verdict text := by
  have hidle := verdict_dropIdleSpaces [] none (fun _ => rfl) (by simp)
    (collapseBlanks (text.map smallMark))
  have hblanks := verdict_collapseBlanks [] (text.map smallMark)
  rw [List.nil_append, List.nil_append] at hidle hblanks
  rw [plain, respells_dropLeadingZeros.verdict_eq, hidle, hblanks, respells_smallMark.verdict_eq]

/-- Texts with the same plain spelling are both accepted, as the same terms, or both rejected, because of
the same fault. -/
theorem read_of_plain_eq {text other : Text} (h : plain text = plain other) :
    (∃ terms, read text = .ok terms ∧ read other = .ok terms) ∨
      ∃ rejection rejection', read text = .error rejection ∧ read other = .error rejection' ∧
        rejection.fault = rejection'.fault := by
  rw [← verdict_eq_iff, ← verdict_plain text, ← verdict_plain other, h]

/-- A die too large by far is so in every spelling, whatever blanks and zeros stand in front of it. -/
theorem read_of_plain_eq_too_large :
    plain " 3 +\t0099999999999D6 ".toList = plain "003+99999999999d06".toList ∧
      ((∃ terms, read " 3 +\t0099999999999D6 ".toList = .ok terms ∧
          read "003+99999999999d06".toList = .ok terms) ∨
        ∃ rejection rejection', read " 3 +\t0099999999999D6 ".toList = .error rejection ∧
          read "003+99999999999d06".toList = .error rejection' ∧ rejection.fault = rejection'.fault) :=
  have hplain : plain " 3 +\t0099999999999D6 ".toList = plain "003+99999999999d06".toList := by
    decide +kernel
  ⟨hplain, read_of_plain_eq hplain⟩

end DiceSum
