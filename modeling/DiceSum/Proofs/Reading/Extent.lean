import Mathlib.Data.List.TakeWhile
import DiceSum.Proofs.Reading.Bounds
import DiceSum.Proofs.Reading.Position

/-!
# Tokens and the text behind them

How far a token reaches is decided by the character or two behind it. So dice and constants stay complete
when their text goes on with anything but a digit or the letter of a die (`Token.Maximal.append`), a token
that is read stays complete when the text behind it is cut short (`Token.Maximal.of_append`), and every
token is complete when nothing at all follows it (`Token.Maximal.alone`). A token that stands alone is
known by its text (`Token.Maximal.eq_of_text_eq`).
-/

namespace DiceSum

open Token

section Starts

variable {p : Char → Bool} {rest s : Text}

/-- A text opens no number just if it starts with neither a digit nor the letter of a die. -/
theorem startsWith_opensNumber_eq_false_iff :
    startsWith opensNumber s = false ↔
      startsWith Char.isDigit s = false ∧ startsWith isDieMark s = false := by
  cases s with
  | nil => simp
  | cons c s => simp [opensNumber]

/-- No die reaches into a text that starts with neither a digit nor the letter of a die. -/
theorem Token.startsDie_append (hs : startsWith opensNumber s = false) (rest : Text) :
    startsDie (rest ++ s) = startsDie rest := by
  obtain ⟨hdigit, hmark⟩ := startsWith_opensNumber_eq_false_iff.mp hs
  cases rest with
  | nil =>
    cases s with
    | nil => rfl
    | cons c s =>
      have hc : isDieMark c = false := hmark
      simp [startsDie, hc]
  | cons mark after =>
    rw [List.cons_append, startsDie, startsDie, startsWith_append_of_not hdigit]

/-- A text that is cut short starts no dice if the whole text starts none. -/
theorem Token.startsDie_of_append (h : startsDie (rest ++ s) = false) : startsDie rest = false := by
  cases rest with
  | nil => rfl
  | cons mark after =>
    cases after with
    | nil => simp [startsDie]
    | cons c after => exact h

end Starts

section Unsigned

variable {s : Text}

/-- Behind a sign, blanks are left out. -/
theorem Token.unsignedPart_sign (sign : Sign) (s : Text) :
    unsignedPart (sign.char :: s) = s.dropWhile isBlank := by
  rw [unsignedPart, Sign.cut_cons]

/-- Without a sign, blanks at the start are left out. -/
theorem Token.unsignedPart_unsigned (h : startsWith isSignMark s = false) :
    unsignedPart s = s.dropWhile isBlank := by
  rw [unsignedPart, Sign.cut_of_unsigned h]

/-- What stands behind a sign and blanks is still there when the text goes on. -/
theorem Token.unsignedPart_append (h : unsignedPart s ≠ []) (t : Text) :
    unsignedPart (s ++ t) = unsignedPart s ++ t := by
  cases hsigned : startsWith isSignMark s with
  | true =>
    obtain ⟨sign, rest, rfl⟩ := Sign.exists_cons hsigned
    rw [unsignedPart_sign] at h
    rw [List.cons_append, unsignedPart_sign, unsignedPart_sign, List.dropWhile_append,
      if_neg (by simpa using h)]
  | false =>
    have hs : s ≠ [] := by
      rintro rfl
      exact h rfl
    have hlonger : startsWith isSignMark (s ++ t) = false := by rwa [startsWith_append hs]
    rw [unsignedPart_unsigned hsigned] at h
    rw [unsignedPart_unsigned hsigned, unsignedPart_unsigned hlonger, List.dropWhile_append,
      if_neg (by simpa using h)]

end Unsigned

/-- Whether a text starts with a run of anything. -/
structure StartsUnknown (s : Text) : Prop where
  inked : startsWith (!isBlank ·) s = true
  no_digit : startsWith Char.isDigit (unsignedPart s) = false
  no_die : startsDie (unsignedPart s) = false

/-- A run of anything starts the text that it is cut from. -/
theorem Token.Maximal.startsUnknown {run rest : Text} (h : Maximal (.unknown run) rest) :
    StartsUnknown (run ++ rest) := by
  cases h with
  | unknown nonempty all_inked stop no_digit no_die =>
    refine ⟨?_, no_digit, no_die⟩
    rw [startsWith_append nonempty]
    exact startsWith_run nonempty all_inked

namespace StartsUnknown

variable {s : Text}

/-- A text with a run of anything in front still starts with one when it goes on with neither a digit nor
the letter of a die. -/
theorem append {more : Text} (h : StartsUnknown s) (hpart : unsignedPart s ≠ [])
    (hmore : startsWith opensNumber more = false) : StartsUnknown (s ++ more) := by
  have hs : s ≠ [] := by
    rintro rfl
    exact hpart rfl
  refine ⟨?_, ?_, ?_⟩
  · rw [startsWith_append hs]
    exact h.inked
  · rw [unsignedPart_append hpart, startsWith_append hpart]
    exact h.no_digit
  · rw [unsignedPart_append hpart, startsDie_append hmore]
    exact h.no_die

/-- A text that is not understood has nothing behind a sign and blanks only if it is a sign before blanks.
-/
theorem eq_sign (h : StartsUnknown s) (hpart : unsignedPart s = []) :
    ∃ (sign : Sign) (blanks : Text), s = sign.char :: blanks ∧ blanks.all isBlank = true := by
  cases hsigned : startsWith isSignMark s with
  | true =>
    obtain ⟨sign, rest, rfl⟩ := Sign.exists_cons hsigned
    rw [unsignedPart_sign] at hpart
    exact ⟨sign, rest, rfl, List.all_eq_true.mpr (List.dropWhile_eq_nil_iff.mp hpart)⟩
  | false =>
    rw [unsignedPart_unsigned hsigned, List.dropWhile_eq_nil_iff] at hpart
    have hinked := h.inked
    cases s with
    | nil => simp at hinked
    | cons c s => simp [hpart] at hinked

end StartsUnknown

namespace Token.Maximal

variable {token : Token} {rest more : Text}

/-- Dice and constants stay complete when the text goes on with neither a digit nor the letter of a
die. -/
theorem append (h : Maximal token rest) (hwritten : token.written ≠ [])
    (hmore : startsWith opensNumber more = false) : Maximal token (rest ++ more) := by
  have hdigit := (startsWith_opensNumber_eq_false_iff.mp hmore).1
  cases h with
  | gap => exact absurd rfl hwritten
  | dice number is_mark nonempty all_sides stop =>
    exact .dice number is_mark nonempty all_sides (by rwa [startsWith_append_of_not hdigit])
  | constant number nonempty stop no_die =>
    exact .constant number nonempty (by rwa [startsWith_append_of_not hdigit])
      (by rwa [startsDie_append hmore])
  | unknown => exact absurd rfl hwritten

/-- A token that is read stays complete when the text behind it is cut short. -/
theorem of_append {convert : Conversion} {terms : List Term} (h : Maximal token (rest ++ more))
    (hterms : token.terms convert = .ok terms) : Maximal token rest := by
  cases h with
  | gap nonempty all_blanks stop => exact .gap nonempty all_blanks (startsWith_of_append stop)
  | dice number is_mark nonempty all_sides stop =>
    exact .dice number is_mark nonempty all_sides (startsWith_of_append stop)
  | constant number nonempty stop no_die =>
    exact .constant number nonempty (startsWith_of_append stop) (startsDie_of_append no_die)
  | unknown => cases hterms

/-- A token is complete when nothing follows it. -/
theorem alone (h : Maximal token rest) : Maximal token [] := by
  cases h with
  | gap nonempty all_blanks => exact .gap nonempty all_blanks rfl
  | dice number is_mark nonempty all_sides => exact .dice number is_mark nonempty all_sides rfl
  | constant number nonempty => exact .constant number nonempty rfl rfl
  | @unknown run _ nonempty all_inked stop no_digit no_die =>
    have hpart : startsWith Char.isDigit (unsignedPart run) = false ∧
        startsDie (unsignedPart run) = false := by
      by_cases hnil : unsignedPart run = []
      · rw [hnil]
        exact ⟨rfl, rfl⟩
      · rw [unsignedPart_append hnil] at no_digit no_die
        exact ⟨startsWith_of_append no_digit, startsDie_of_append no_die⟩
    refine .unknown nonempty all_inked rfl ?_ ?_
    · rw [List.append_nil]
      exact hpart.1
    · rw [List.append_nil]
      exact hpart.2

/-- Tokens that stand alone are told apart by their texts. -/
theorem eq_of_text_eq {other : Token} (h : Maximal token []) (hother : Maximal other [])
    (htext : token.text = other.text) : token = other := by
  have hscan : scan (token.text ++ []) = scan (other.text ++ []) := by rw [htext]
  rw [scan_append h, scan_append hother] at hscan
  exact (List.cons.inj hscan).1

end Token.Maximal

/-- Whether a text is a single dice token, with this sign and these digits. -/
def IsDiceText (text : Text) (sign : Option Sign) (count sides : Text) : Prop :=
  ∃ blanks mark, Maximal (.dice sign blanks count mark sides) [] ∧
    (Token.dice sign blanks count mark sides).text = text

/-- A token with the text of dice is these dice. -/
theorem IsDiceText.eq_dice {token : Token} {rest : Text} {sign : Option Sign} {count sides : Text}
    (h : IsDiceText token.text sign count sides) (htoken : Maximal token rest) :
    ∃ blanks mark, token = .dice sign blanks count mark sides := by
  obtain ⟨blanks, mark, hdice, htext⟩ := h
  exact ⟨blanks, mark, htoken.alone.eq_of_text_eq hdice htext.symm⟩

end DiceSum
