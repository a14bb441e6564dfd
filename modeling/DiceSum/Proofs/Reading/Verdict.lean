import DiceSum.Proofs.Reading.Extent
import DiceSum.Proofs.Reading.Rejected

/-!
# Verdicts

The verdict on a text is what reading makes of it, apart from where: its terms, or the fault of its first
token at fault. It is found token by token (`verdict_append`), blanks in front do not matter
(`verdict_blanks`), nor does their number behind a sign (`verdict_sign_blanks`).

The main statement is `verdict_append_congr`. Two texts that start neither with a digit nor with the letter
of a die, and on which the verdict is the same, also behind a sign, may stand for each other behind any
text: no dice and no constant reach into them, and where a run of anything does, it is not understood
either way.
-/

namespace DiceSum

open Token

/-- What reading makes of a text, wherever its tokens stand. -/
def verdict (text : Text) : Except Fault (List Term) :=
  (read text).mapError Rejection.fault

/-- Texts with the same verdict are both accepted, as the same terms, or both rejected, because of the same
fault. -/
theorem verdict_eq_iff {text other : Text} :
    verdict text = verdict other ↔
      (∃ terms, read text = .ok terms ∧ read other = .ok terms) ∨
      ∃ rejection rejection', read text = .error rejection ∧ read other = .error rejection' ∧
        rejection.fault = rejection'.fault := by
  unfold verdict
  cases read text <;> cases read other <;> simp [Except.mapError, eq_comm]

variable {token other : Token} {rest s : Text}

/-- The verdict on a text is that on its first token, and then that on the rest. -/
theorem verdict_append (h : Token.Maximal token rest) :
    verdict (token.text ++ rest) =
      token.terms magnitude >>= fun terms => (verdict rest).map (terms ++ ·) := by
  rw [verdict, read, scan_append h, readFrom]
  cases token.terms magnitude with
  | error fault => rfl
  | ok terms =>
    have hshift := readFrom_add magnitude 0 token.text.length (scan rest)
    simp only [hshift, verdict, read]
    cases readFrom magnitude 0 (scan rest) <;> rfl

/-- Texts have the same verdict if their first tokens are read alike and the verdict on their rests is the
same. -/
theorem verdict_eq_of_maximal {otherRest : Text} (h : Token.Maximal token rest)
    (hother : Token.Maximal other otherRest)
    (hterms : token.terms magnitude = other.terms magnitude)
    (hrest : verdict rest = verdict otherRest) :
    verdict (token.text ++ rest) = verdict (other.text ++ otherRest) := by
  rw [verdict_append h, verdict_append hother, hterms, hrest]

/-- Blanks in front of a text do not matter. -/
theorem verdict_blanks {blanks : Text} (hall : blanks.all isBlank = true) (s : Text) :
    verdict (blanks ++ s) = verdict s := by
  by_cases hne : blanks = []
  · rw [hne, List.nil_append]
  · have hshift := readFrom_add magnitude 0 blanks.length (scan s)
    rw [verdict, read, readFrom_blanks hne hall, hshift, verdict, read]
    cases readFrom magnitude 0 (scan s) <;> rfl

/-- A text that starts with a run of anything is not understood. -/
theorem StartsUnknown.verdict_eq (h : StartsUnknown s) : verdict s = .error .unknown := by
  have hwhole : s.takeWhile (!isBlank ·) ++ s.dropWhile (!isBlank ·) = s :=
    List.takeWhile_append_dropWhile
  have hmaximal : Token.Maximal (.unknown (s.takeWhile (!isBlank ·))) (s.dropWhile (!isBlank ·)) := by
    refine .unknown (takeWhile_ne_nil_of_startsWith h.inked) List.all_takeWhile
      (startsWith_dropWhile _ _) ?_ ?_
    · rw [hwhole]
      exact h.no_digit
    · rw [hwhole]
      exact h.no_die
  have hverdict := verdict_append hmaximal
  rw [Token.text, hwhole] at hverdict
  exact hverdict

/-- What holds of the empty text and of a text that is not understood, and of a text with blanks, dice or a
constant in front whenever it holds of the rest, holds of every text. -/
theorem verdict_induction {motive : Text → Prop} (nil : motive [])
    (blanks : ∀ blanks rest, blanks.all isBlank = true → motive rest → motive (blanks ++ rest))
    (unknown : ∀ s, StartsUnknown s → motive s)
    (written : ∀ token rest, Token.Maximal token rest → token.written ≠ [] → motive rest →
      motive (token.text ++ rest))
    (s : Text) : motive s := by
  induction s using scan_induction with
  | nil => exact nil
  | cut token rest hmaximal ih =>
    by_cases hwritten : token.written = []
    · cases hmaximal with
      | gap nonempty all_blanks => exact blanks _ _ all_blanks ih
      | dice => simp [Token.written] at hwritten
      | constant => simp [Token.written] at hwritten
      | unknown nonempty all_inked stop no_digit no_die =>
        exact unknown _ (Token.Maximal.unknown nonempty all_inked stop no_digit no_die).startsUnknown
    · exact written token rest hmaximal hwritten ih

/-- A text starts with dice, with a constant, or with nothing that makes a number with a sign. -/
theorem number_cases (s : Text) :
    (∃ count mark sides rest, s = count ++ mark :: (sides ++ rest) ∧
      count.all Char.isDigit = true ∧ isDieMark mark = true ∧ sides ≠ [] ∧
      sides.all Char.isDigit = true ∧ startsWith Char.isDigit rest = false) ∨
    (∃ digits rest, s = digits ++ rest ∧ digits ≠ [] ∧ digits.all Char.isDigit = true ∧
      startsWith Char.isDigit rest = false ∧ startsDie rest = false) ∨
    startsWith Char.isDigit s = false ∧ startsDie s = false := by
  have hwhole : s.takeWhile Char.isDigit ++ s.dropWhile Char.isDigit = s :=
    List.takeWhile_append_dropWhile
  have hstop := startsWith_dropWhile Char.isDigit s
  cases hdie : startsDie (s.dropWhile Char.isDigit) with
  | true =>
    left
    cases hrest : s.dropWhile Char.isDigit with
    | nil => simp [hrest, startsDie] at hdie
    | cons mark after =>
      have hboth : isDieMark mark = true ∧ startsWith Char.isDigit after = true := by
        simpa [hrest, startsDie] using hdie
      refine ⟨s.takeWhile Char.isDigit, mark, after.takeWhile Char.isDigit,
        after.dropWhile Char.isDigit, ?_, List.all_takeWhile, hboth.1,
        takeWhile_ne_nil_of_startsWith hboth.2, List.all_takeWhile, startsWith_dropWhile _ _⟩
      rw [List.takeWhile_append_dropWhile, ← hrest, hwhole]
  | false =>
    right
    cases hdigit : startsWith Char.isDigit s with
    | true =>
      exact .inl ⟨_, _, hwhole.symm, takeWhile_ne_nil_of_startsWith hdigit, List.all_takeWhile,
        hstop, hdie⟩
    | false =>
      rw [takeWhile_eq_nil_of_startsWith hdigit, List.nil_append] at hwhole
      rw [hwhole] at hdie
      exact .inr ⟨rfl, hdie⟩

/-- A sign before nothing that makes a number is not understood. -/
theorem startsUnknown_sign (sign : Sign) (hdigit : startsWith Char.isDigit (s.dropWhile isBlank) = false)
    (hdie : startsDie (s.dropWhile isBlank) = false) : StartsUnknown (sign.char :: s) where
  inked := by
    rw [startsWith_cons, (isSignMark_only sign.isSignMark_char).1]
    rfl
  no_digit := by rwa [unsignedPart_sign]
  no_die := by rwa [unsignedPart_sign]

/-- Blanks between a sign and what is inked do not matter. -/
theorem verdict_sign_inked {blanks : Text} (sign : Sign) (hall : blanks.all isBlank = true)
    (hs : startsWith isBlank s = false) :
    verdict (sign.char :: (blanks ++ s)) = verdict (sign.char :: s) := by
  have hnumber : ∀ {blanks digits : Text}, blanks.all isBlank = true →
      digits.all Char.isDigit = true → IsNumber (some sign) blanks digits :=
    fun hblanks hdigits => ⟨hblanks, fun hsign => by simp at hsign, hdigits⟩
  obtain ⟨count, mark, sides, rest, rfl, hcount, hmark, hne, hsides, hstop⟩ |
    ⟨digits, rest, rfl, hne, hdigits, hstop, hdie⟩ | ⟨hdigit, hdie⟩ := number_cases s
  · have hspaced : Token.Maximal (.dice (some sign) blanks count mark sides) rest :=
      .dice (hnumber hall hcount) hmark hne hsides hstop
    have hclose : Token.Maximal (.dice (some sign) [] count mark sides) rest :=
      .dice (hnumber rfl hcount) hmark hne hsides hstop
    simpa [Token.text, Sign.text] using verdict_eq_of_maximal hspaced hclose rfl rfl
  · have hspaced : Token.Maximal (.constant (some sign) blanks digits) rest :=
      .constant (hnumber hall hdigits) hne hstop hdie
    have hclose : Token.Maximal (.constant (some sign) [] digits) rest :=
      .constant (hnumber rfl hdigits) hne hstop hdie
    simpa [Token.text, Sign.text] using verdict_eq_of_maximal hspaced hclose rfl rfl
  · have hspaced : (blanks ++ s).dropWhile isBlank = s := dropWhile_run hall hs
    have hclose : ([] ++ s).dropWhile isBlank = s := dropWhile_run rfl hs
    rw [List.nil_append] at hclose
    rw [(startsUnknown_sign sign (by rwa [hspaced]) (by rwa [hspaced])).verdict_eq,
      (startsUnknown_sign sign (by rwa [hclose]) (by rwa [hclose])).verdict_eq]

/-- How many blanks follow a sign does not matter. -/
theorem verdict_sign_blanks {blanks : Text} (sign : Sign) (hall : blanks.all isBlank = true) (s : Text) :
    verdict (sign.char :: (blanks ++ s)) = verdict (sign.char :: s) := by
  have hwhole : s.takeWhile isBlank ++ s.dropWhile isBlank = s := List.takeWhile_append_dropWhile
  have hstop := startsWith_dropWhile isBlank s
  have hown : (s.takeWhile isBlank).all isBlank = true := List.all_takeWhile
  have hboth : (blanks ++ s.takeWhile isBlank).all isBlank = true := by
    rw [List.all_append, hall, hown]
    rfl
  have hspaced := verdict_sign_inked sign hboth hstop
  have hclose := verdict_sign_inked sign hown hstop
  rw [List.append_assoc, hwhole] at hspaced
  rw [hwhole] at hclose
  rw [hspaced, hclose]

/-- Texts that open no number and have the same verdict, also behind a sign, have the same verdict behind
any text. -/
theorem verdict_append_congr {s t : Text} (hs : startsWith opensNumber s = false)
    (ht : startsWith opensNumber t = false) (hverdict : verdict s = verdict t)
    (hsigned : ∀ sign : Sign, verdict (sign.char :: s) = verdict (sign.char :: t)) (x : Text) :
    verdict (x ++ s) = verdict (x ++ t) := by
  induction x using verdict_induction with
  | nil => exact hverdict
  | blanks blanks rest hall ih =>
    rw [List.append_assoc, List.append_assoc, verdict_blanks hall, verdict_blanks hall, ih]
  | unknown x hunknown =>
    by_cases hpart : unsignedPart x = []
    · obtain ⟨sign, blanks, rfl, hblanks⟩ := hunknown.eq_sign hpart
      rw [List.cons_append, List.cons_append, verdict_sign_blanks sign hblanks,
        verdict_sign_blanks sign hblanks, hsigned]
    · rw [(hunknown.append hpart hs).verdict_eq, (hunknown.append hpart ht).verdict_eq]
  | written token rest hmaximal hwritten ih =>
    rw [List.append_assoc, List.append_assoc]
    exact verdict_eq_of_maximal (hmaximal.append hwritten hs) (hmaximal.append hwritten ht) rfl ih

/-- Blanks may be exchanged for other blanks behind any text, if what follows them or takes their place
opens no number. -/
theorem verdict_append_blanks_congr {blanks others : Text} (hall : blanks.all isBlank = true)
    (hothers : others.all isBlank = true) (h : startsWith opensNumber (blanks ++ s) = false)
    (hother : startsWith opensNumber (others ++ s) = false) (x : Text) :
    verdict (x ++ (blanks ++ s)) = verdict (x ++ (others ++ s)) := by
  refine verdict_append_congr h hother ?_ (fun sign => ?_) x
  · rw [verdict_blanks hall, verdict_blanks hothers]
  · rw [verdict_sign_blanks sign hall, verdict_sign_blanks sign hothers]

/-- A sign opens no number, and behind another sign it is not understood. -/
theorem opensNumber_sign (sign : Sign) (s : Text) :
    startsWith opensNumber (sign.char :: s) = false := by
  have honly := isSignMark_only sign.isSignMark_char
  simp [opensNumber, honly]

/-- A sign in front of another sign starts a run of anything. -/
theorem startsUnknown_sign_sign (first second : Sign) (s : Text) :
    StartsUnknown (first.char :: second.char :: s) := by
  have honly := isSignMark_only second.isSignMark_char
  have hpart : (second.char :: s).dropWhile isBlank = second.char :: s :=
    List.dropWhile_cons_of_neg (by simp [honly])
  refine startsUnknown_sign first ?_ ?_
  · rw [hpart]
    exact honly.2.1
  · rw [hpart]
    simp [startsDie, honly]

/-- Blanks behind a sign do not matter, wherever the sign stands. -/
theorem verdict_append_sign_blanks {blanks : Text} (sign : Sign) (hall : blanks.all isBlank = true)
    (s x : Text) :
    verdict (x ++ sign.char :: (blanks ++ s)) = verdict (x ++ sign.char :: s) := by
  refine verdict_append_congr (opensNumber_sign sign _) (opensNumber_sign sign _)
    (verdict_sign_blanks sign hall s) (fun first => ?_) x
  rw [(startsUnknown_sign_sign first sign _).verdict_eq,
    (startsUnknown_sign_sign first sign _).verdict_eq]

end DiceSum
