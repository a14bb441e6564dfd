import DiceSum.Proofs.Reading.Spaced

/-!
# Rejections of longer texts

What is wrong with a token does not depend on where the token stands, so a text behind an accepted one is
rejected as it would be alone, only further right (`readFrom_add`). A text in front that is rejected stays
rejected in the same way, whatever follows behind blanks: the token at fault ends before the blanks, so it
is still first in what is left of the text. The one exception is a sign with nothing but blanks behind
it, which the text that follows may complete (`readFrom_error_append_blanks`).
-/

namespace DiceSum

open Token

variable {blanks rest : Text}

/-- A run of anything stays as it is when blanks follow its text, unless it is a sign before blanks. -/
theorem Token.Maximal.unknown_append_blanks {run : Text} (h : Maximal (Token.unknown run) rest)
    (hpart : unsignedPart (run ++ rest) ≠ []) (hne : blanks ≠ []) (hall : blanks.all isBlank = true)
    (text : Text) : Maximal (Token.unknown run) (rest ++ (blanks ++ text)) := by
  have hlonger := h.startsUnknown.append hpart (opensNumber_blanks hne hall text)
  rw [List.append_assoc] at hlonger
  cases h with
  | unknown nonempty all_inked stop =>
    refine .unknown nonempty all_inked ?_ hlonger.no_digit hlonger.no_die
    by_cases hrest : rest = []
    · rw [hrest, List.nil_append]
      exact startsWith_blanks hne hall (by simp) text
    · rwa [startsWith_append hrest]

/-- A run of anything has nothing behind a sign and blanks only if it is a sign before blanks. -/
theorem Token.Maximal.unknown_eq_sign {run : Text} (h : Maximal (Token.unknown run) rest)
    (hpart : unsignedPart (run ++ rest) = []) :
    ∃ sign : Sign, run = [sign.char] ∧ rest.all isBlank = true := by
  obtain ⟨sign, blanks, htext, hblanks⟩ := h.startsUnknown.eq_sign hpart
  cases h with
  | unknown nonempty all_inked =>
    cases run with
    | nil => exact absurd rfl nonempty
    | cons c run =>
      obtain ⟨rfl, htail⟩ := List.cons.inj htext
      change run ++ rest = blanks at htail
      rw [← htail, List.all_append, Bool.and_eq_true] at hblanks
      refine ⟨sign, ?_, hblanks.2⟩
      cases run with
      | nil => rfl
      | cons c run => simp_all

/-- Reading tokens further right gives the same terms, or the same rejection further right. -/
theorem readFrom_add (convert : Conversion) (position offset : Nat) (tokens : List Token) :
    readFrom convert (position + offset) tokens =
      (readFrom convert position tokens).mapError fun rejection =>
        { rejection with position := rejection.position + offset } := by
  induction tokens generalizing position with
  | nil => rfl
  | cons token rest ih =>
    rw [readFrom, readFrom]
    cases token.terms convert with
    | error fault => rfl
    | ok terms =>
      rw [Nat.add_right_comm, ih]
      cases readFrom convert (position + token.text.length) rest <;> rfl

/-- A token that is read stays as it is when blanks follow its text, if there is something between. -/
theorem Token.Maximal.append_blanks_of_ok {token : Token} (h : Maximal token rest)
    {convert : Conversion} {terms : List Term} (hterms : token.terms convert = .ok terms)
    (hrest : rest ≠ []) (hne : blanks ≠ []) (hall : blanks.all isBlank = true) (text : Text) :
    Maximal token (rest ++ (blanks ++ text)) := by
  cases h with
  | gap nonempty all_blanks stop =>
    exact .gap nonempty all_blanks (by rwa [startsWith_append hrest])
  | dice number is_mark nonempty all_sides stop =>
    exact (Maximal.dice number is_mark nonempty all_sides stop).append
      (List.cons_ne_nil _ _) (opensNumber_blanks hne hall text)
  | constant number nonempty stop no_die =>
    exact (Maximal.constant number nonempty stop no_die).append
      (List.cons_ne_nil _ _) (opensNumber_blanks hne hall text)
  | unknown => cases hterms

/-- A token at fault stays as it is when blanks follow its text, unless it is a sign before blanks. -/
theorem Token.Maximal.append_blanks_of_error {token : Token} (h : Maximal token rest)
    {convert : Conversion} {fault : Fault} (hterms : token.terms convert = .error fault)
    (hne : blanks ≠ []) (hall : blanks.all isBlank = true) (text : Text) :
    Maximal token (rest ++ (blanks ++ text)) ∨
      ∃ sign : Sign, token = .unknown [sign.char] ∧ rest.all isBlank = true := by
  cases h with
  | gap => cases hterms
  | dice number is_mark nonempty all_sides stop =>
    exact .inl ((Maximal.dice number is_mark nonempty all_sides stop).append
      (List.cons_ne_nil _ _) (opensNumber_blanks hne hall text))
  | constant number nonempty stop no_die =>
    exact .inl ((Maximal.constant number nonempty stop no_die).append
      (List.cons_ne_nil _ _) (opensNumber_blanks hne hall text))
  | @unknown run _ nonempty all_inked stop no_digit no_die =>
    have hmaximal := Maximal.unknown nonempty all_inked stop no_digit no_die
    by_cases hpart : unsignedPart (run ++ rest) = []
    · obtain ⟨sign, rfl, hrest⟩ := hmaximal.unknown_eq_sign hpart
      exact .inr ⟨sign, rfl, hrest⟩
    · exact .inl (hmaximal.unknown_append_blanks hpart hne hall text)

/-- A rejected text is rejected in the same way when blanks and anything else follow, unless it ends with
a sign before blanks, and is rejected because of that sign. -/
theorem readFrom_error_append_blanks {convert : Conversion} {first : Text} {position : Nat}
    {rejection : Rejection} (h : readFrom convert position (scan first) = .error rejection)
    (hne : blanks ≠ []) (hall : blanks.all isBlank = true) (text : Text) :
    readFrom convert position (scan (first ++ (blanks ++ text))) = .error rejection ∨
      ∃ before after, ∃ sign : Sign, first = before ++ sign.char :: after ∧
        after.all isBlank = true ∧
        rejection = { token := [sign.char], position := position + before.length, fault := .unknown } := by
  induction first using scan_induction generalizing position with
  | nil => simp [readFrom] at h
  | cut token rest hmaximal ih =>
    rw [scan_append hmaximal, readFrom] at h
    rw [List.append_assoc]
    cases hterms : token.terms convert with
    | error fault =>
      rw [hterms] at h
      obtain rfl := Except.error.inj h
      rcases hmaximal.append_blanks_of_error hterms hne hall text with hlonger | ⟨sign, rfl, hrest⟩
      · left
        rw [scan_append hlonger, readFrom, hterms]
      · right
        obtain rfl : Fault.unknown = fault := Except.error.inj hterms
        exact ⟨[], rest, sign, rfl, hrest, rfl⟩
    | ok terms =>
      rw [hterms] at h
      cases hmore : readFrom convert (position + token.text.length) (scan rest) with
      | ok more =>
        rw [hmore] at h
        cases h
      | error later =>
        rw [hmore] at h
        obtain rfl : later = rejection := Except.error.inj h
        have hrest : rest ≠ [] := by
          rintro rfl
          simp [readFrom] at hmore
        have hlonger := hmaximal.append_blanks_of_ok hterms hrest hne hall text
        rcases ih hmore with hsame | ⟨before, after, sign, rfl, hafter, rfl⟩
        · left
          rw [scan_append hlonger, readFrom_cons_of_ok hterms, hsame]
          rfl
        · right
          refine ⟨token.text ++ before, after, sign, by rw [List.append_assoc], hafter, ?_⟩
          rw [List.length_append, Nat.add_assoc]

/-- Whether a text is rejected because it ends with a sign that only blanks follow. -/
def Rejection.IsDangling (rejection : Rejection) (text : Text) : Prop :=
  ∃ sign : Sign, rejection.refusal = .notUnderstood [sign.char] rejection.position ∧
    (text.drop (rejection.position + 1)).all isBlank = true

/-- Reading texts with blanks between them: accepted texts are accepted, as the terms of both; behind an
accepted text a rejected one is rejected as it is alone, further right; and a rejected text is rejected as
it is alone, whatever follows, unless it ends with a dangling sign. -/
theorem read_append_spaced (hne : blanks ≠ []) (hall : blanks.all isBlank = true)
    (first second : Text) :
    (∀ terms more, read first = .ok terms → read second = .ok more →
      read (first ++ blanks ++ second) = .ok (terms ++ more)) ∧
    (∀ terms rejection, read first = .ok terms → read second = .error rejection →
      read (first ++ blanks ++ second) =
        .error { rejection with position := rejection.position + (first.length + blanks.length) }) ∧
    (∀ rejection, read first = .error rejection → ¬ rejection.IsDangling first →
      read (first ++ blanks ++ second) = .error rejection) := by
  rw [List.append_assoc]
  refine ⟨?_, ?_, ?_⟩
  · intro terms more hfirst hsecond
    exact read_append_blanks hfirst hsecond hne hall
  · intro terms rejection hfirst hsecond
    have hshift := readFrom_add magnitude 0 (first.length + blanks.length) (scan second)
    change readFrom magnitude 0 (scan second) = .error rejection at hsecond
    rw [hsecond] at hshift
    rw [read, readFrom_append_blanks hfirst hne hall, Nat.add_assoc, hshift]
    rfl
  · intro rejection hfirst hdangling
    rcases readFrom_error_append_blanks hfirst hne hall second with
      hsame | ⟨before, after, sign, rfl, hafter, rfl⟩
    · exact hsame
    · refine absurd ⟨sign, rfl, ?_⟩ hdangling
      have hdrop : (before ++ sign.char :: after).drop (0 + before.length + 1) = after := by
        simp [List.drop_append]
      rwa [hdrop]

/-- Behind `2d6 5d` and a tab, a lone sign does not change what is rejected. -/
theorem read_append_spaced_tab :
    ['\t'] ≠ [] ∧ ['\t'].all isBlank = true ∧
      read "2d6 5d".toList = .error { token := ['d'], position := 5, fault := .unknown } ∧
      read "2d6 5d\t+".toList = .error { token := ['d'], position := 5, fault := .unknown } := by
  have hne : ['\t'] ≠ [] := List.cons_ne_nil _ _
  have hall : ['\t'].all isBlank = true := by decide
  have hfirst :
      read "2d6 5d".toList = .error { token := ['d'], position := 5, fault := .unknown } := by
    decide +kernel
  refine ⟨hne, hall, hfirst, (read_append_spaced hne hall "2d6 5d".toList ['+']).2.2 _ hfirst ?_⟩
  rintro ⟨sign, hrefusal, -⟩
  obtain ⟨hmark, -⟩ := Refusal.notUnderstood.inj hrefusal
  cases sign <;> revert hmark <;> decide

/-- A dangling sign is completed by the text that follows. -/
example : read "2d6 + ".toList = .error { token := ['+'], position := 4, fault := .unknown } ∧
    read "2d6 +  d8".toList = .ok [.dice 2 6, .dice 1 8] := by
  decide +kernel

end DiceSum
