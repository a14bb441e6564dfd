import DiceSum.Proofs.Reading.Bounds
import DiceSum.Proofs.Text.Join
import DiceSum.Rendering

/-!
# Reading what was written

A sum is written with a plus sign in front of every term but the first, and a negative term keeps its
minus sign behind the plus. A plus sign, a blank and a term without a sign are read as one token, the
term again; a plus sign before a minus sign is no token at all. So a written sum is read back exactly if
no term behind the first is negative, and otherwise the plus sign of the first such term is at fault
(`read_render`).
-/

namespace DiceSum

/-- Whether a term is written with a minus sign. -/
def Term.isNegative : Term → Bool
  | .dice count _ => count < 0
  | .constant value => value < 0

/-- The first term, and the terms behind it up to the first negative one. -/
def beforeNegative (terms : List Term) : List Term :=
  terms.take 1 ++ terms.tail.takeWhile (!·.isNegative)

/-- The token of a term behind a sign and blanks. -/
def Term.token (sign : Option Sign) (blanks : Text) : Term → Token
  | .dice count sides =>
    .dice sign blanks (Decimal.ofNat count.natAbs) 'd' (Decimal.ofNat sides.natAbs)
  | .constant value => .constant sign blanks (Decimal.ofNat value.natAbs)

/-- The sign that a term is written with on its own. -/
def Term.ownSign (term : Term) : Option Sign :=
  if term.isNegative then some .minus else none

/-- The terms of a sum behind the first, as they are written. -/
def renderTail (terms : List Term) : Text :=
  terms.flatMap fun term => " + ".toList ++ term.render

/-- A rendered sum is its first term with the others behind it. -/
theorem render_cons (term : Term) (rest : List Term) :
    render (term :: rest) = term.render ++ renderTail rest := by
  rw [render, List.map_cons, joinWith_cons, renderTail, List.flatMap_map]

/-- Each later term stands behind a plus sign between blanks. -/
theorem renderTail_cons (term : Term) (rest : List Term) :
    renderTail (term :: rest) = ' ' :: '+' :: ' ' :: (term.render ++ renderTail rest) := by
  rw [renderTail, List.flatMap_cons]
  rfl

/-- What follows the first term is a blank, or nothing. -/
theorem startsWith_renderTail (rest : List Term) :
    startsWith (!isBlank ·) (renderTail rest) = false := by
  cases rest with
  | nil => rfl
  | cons term rest => rfl

/-- Written numbers consist of digits. -/
theorem Decimal.all_ofNat (n : Nat) : (Decimal.ofNat n).all Char.isDigit = true :=
  List.all_eq_true.mpr fun _ hc => Decimal.isDigit_of_mem_ofNat hc

/-- An integer is written as its magnitude, with a minus sign if it is negative. -/
theorem Decimal.ofInt_eq (n : Int) :
    Decimal.ofInt n = Sign.text (if n < 0 then some .minus else none) ++ Decimal.ofNat n.natAbs := by
  cases n with
  | ofNat n => rfl
  | negSucc n =>
    rw [if_pos (Int.negSucc_lt_zero n)]
    rfl

/-- A term is written as its token. -/
theorem Term.render_eq_text {term : Term} (h : term.InBounds) :
    term.render = (term.token term.ownSign []).text := by
  cases term with
  | dice count sides =>
    have hsides : ¬ sides < 0 := by
      have hone := h.2.1
      omega
    rw [Term.render, Decimal.ofInt_eq count, Decimal.ofInt_eq sides, if_neg hsides]
    simp [Term.token, Term.ownSign, Term.isNegative, Token.text, Sign.text]
  | constant value =>
    rw [Term.render, Decimal.ofInt_eq value]
    simp [Term.token, Term.ownSign, Term.isNegative, Token.text]

/-- A term that is not negative is written as the digits of its token. -/
theorem Term.plus_render_eq_text {term : Term} (h : term.InBounds) (hsign : term.isNegative = false) :
    '+' :: ' ' :: term.render = (term.token (some .plus) [' ']).text := by
  rw [Term.render_eq_text h, Term.ownSign, hsign]
  cases term <;> rfl

/-- The token of a term is complete in front of a blank, and at the end of a text. -/
theorem Term.maximal_token (term : Term) {sign : Option Sign} {blanks rest : Text}
    (hblanks : blanks.all isBlank = true) (hunsigned : sign = none → blanks = [])
    (hrest : startsWith (!isBlank ·) rest = false) : Token.Maximal (term.token sign blanks) rest := by
  have hstop : startsWith Char.isDigit rest = false ∧ Token.startsDie rest = false := by
    cases rest with
    | nil => exact ⟨rfl, rfl⟩
    | cons c rest =>
      have honly := isBlank_only (c := c) (by simpa using hrest)
      exact ⟨honly.1, by simp [Token.startsDie, honly]⟩
  cases term with
  | dice count sides =>
    exact .dice ⟨hblanks, hunsigned, Decimal.all_ofNat _⟩ rfl (Decimal.ofNat_ne_nil _)
      (Decimal.all_ofNat _) hstop.1
  | constant value =>
    exact .constant ⟨hblanks, hunsigned, Decimal.all_ofNat _⟩ (Decimal.ofNat_ne_nil _) hstop.1 hstop.2

/-- The token of a term writes the term, if its sign is the term's own or a plus before a term that is
not negative. -/
theorem Term.written_token {term : Term} (h : term.InBounds) {sign : Option Sign} (blanks : Text)
    (hsign : sign = term.ownSign ∨ sign = some .plus ∧ term.isNegative = false) :
    (term.token sign blanks).written = [term] := by
  have happly : ∀ n : Int, (sign = if n < 0 then some .minus else none) ∨ sign = some .plus ∧ ¬ n < 0 →
      Sign.apply sign n.natAbs = n := by
    rintro n (rfl | ⟨rfl, hn⟩)
    · split
      · simp only [Sign.apply]
        omega
      · simp only [Sign.apply]
        omega
    · simp only [Sign.apply]
      omega
  cases term with
  | dice count sides =>
    have hsides : (sides.natAbs : Int) = sides := by
      have hone := h.2.1
      omega
    have hcount := happly count (by simpa [Term.ownSign, Term.isNegative] using hsign)
    rw [Term.token, Token.written, countValue, if_neg (Decimal.ofNat_ne_nil _), Decimal.value_ofNat,
      Decimal.value_ofNat, hcount, hsides]
  | constant value =>
    have hvalue := happly value (by simpa [Term.ownSign, Term.isNegative] using hsign)
    rw [Term.token, Token.written, Decimal.value_ofNat, hvalue]

/-- A term that can be written is read back from its token. -/
theorem Term.terms_token {term : Term} (h : term.InBounds) {sign : Option Sign} {blanks : Text}
    (hblanks : blanks.all isBlank = true) (hunsigned : sign = none → blanks = [])
    (hsign : sign = term.ownSign ∨ sign = some .plus ∧ term.isNegative = false) :
    (term.token sign blanks).terms magnitude = .ok [term] := by
  have hwritten := Term.written_token h blanks hsign
  have hmaximal : Token.Maximal (term.token sign blanks) [] :=
    term.maximal_token hblanks hunsigned rfl
  refine (Token.terms_eq_ok_iff hmaximal).mpr ⟨?_, hwritten⟩
  have hreadable : ∀ other ∈ (term.token sign blanks).written, other.InBounds := by
    simpa [hwritten] using h
  cases term <;> exact hreadable

/-- A sum starts with the token of its first term. -/
theorem scan_render_cons {term : Term} (h : term.InBounds) (rest : List Term) :
    Token.scan (render (term :: rest)) =
      term.token term.ownSign [] :: Token.scan (renderTail rest) := by
  have hmaximal : Token.Maximal (term.token term.ownSign []) (renderTail rest) :=
    term.maximal_token rfl (fun _ => rfl) (startsWith_renderTail rest)
  rw [render_cons, Term.render_eq_text h, Token.scan_append hmaximal]

/-- Behind the first term, a term that is not negative is one token behind a gap. -/
theorem scan_renderTail_cons {term : Term} (h : term.InBounds) (hsign : term.isNegative = false)
    (rest : List Term) :
    Token.scan (renderTail (term :: rest)) =
      .gap [' '] :: term.token (some .plus) [' '] :: Token.scan (renderTail rest) := by
  have hmaximal : Token.Maximal (term.token (some .plus) [' ']) (renderTail rest) :=
    term.maximal_token rfl (by simp) (startsWith_renderTail rest)
  have hgap : Token.Maximal (.gap [' ']) ((term.token (some .plus) [' ']).text ++ renderTail rest) := by
    refine .gap (by simp) rfl ?_
    rw [← Term.plus_render_eq_text h hsign]
    rfl
  have htext : renderTail (term :: rest) =
      (Token.gap [' ']).text ++ ((term.token (some .plus) [' ']).text ++ renderTail rest) := by
    rw [renderTail_cons, ← Term.plus_render_eq_text h hsign]
    rfl
  rw [htext, Token.scan_append hgap, Token.scan_append hmaximal]

/-- Behind the first term, the plus sign of a negative term stands alone. -/
theorem scan_renderTail_negative {term : Term} (h : term.InBounds) (hsign : term.isNegative = true)
    (rest : List Term) : ∃ tokens,
    Token.scan (renderTail (term :: rest)) = .gap [' '] :: .unknown ['+'] :: tokens := by
  obtain ⟨digits, hrender⟩ : ∃ digits, term.render = '-' :: digits := by
    rw [Term.render_eq_text h, Term.ownSign, hsign]
    cases term <;> exact ⟨_, rfl⟩
  have hunknown : Token.Maximal (.unknown ['+']) (' ' :: '-' :: (digits ++ renderTail rest)) :=
    .unknown (by simp) rfl rfl rfl rfl
  have hgap : Token.Maximal (.gap [' '])
      ((Token.unknown ['+']).text ++ ' ' :: '-' :: (digits ++ renderTail rest)) :=
    .gap (by simp) rfl rfl
  have htext : renderTail (term :: rest) = (Token.gap [' ']).text ++
      ((Token.unknown ['+']).text ++ ' ' :: '-' :: (digits ++ renderTail rest)) := by
    rw [renderTail_cons, hrender]
    rfl
  exact ⟨_, by rw [htext, Token.scan_append hgap, Token.scan_append hunknown]⟩

/-- Terms behind the first are read up to the first negative one. -/
theorem readFrom_renderTail (position : Nat) (terms : List Term)
    (h : ∀ term ∈ terms, term.InBounds) :
    readFrom magnitude position (Token.scan (renderTail terms)) =
      if ∀ term ∈ terms, term.isNegative = false then .ok terms
      else .error {
        token := ['+']
        position := position + (renderTail (terms.takeWhile (!·.isNegative))).length + 1
        fault := .unknown } := by
  induction terms generalizing position with
  | nil => simp [renderTail, readFrom]
  | cons term rest ih =>
    have hterm := h term List.mem_cons_self
    cases hsign : term.isNegative with
    | true =>
      obtain ⟨tokens, htokens⟩ := scan_renderTail_negative hterm hsign rest
      rw [htokens, readFrom_gap]
      simp [readFrom, Token.terms, Token.text, hsign, renderTail]
    | false =>
      have hread : (term.token (some .plus) [' ']).terms magnitude = .ok [term] :=
        Term.terms_token hterm rfl (by simp) (.inr ⟨rfl, hsign⟩)
      have hlength : (term.token (some .plus) [' ']).text.length = term.render.length + 2 := by
        rw [← Term.plus_render_eq_text hterm hsign]
        rfl
      have hothers : ∀ other ∈ rest, other.InBounds := fun other hother =>
        h other (List.mem_cons_of_mem _ hother)
      rw [scan_renderTail_cons hterm hsign, readFrom_gap, readFrom_cons_of_ok hread, ih _ hothers]
      by_cases hrest : ∀ other ∈ rest, other.isNegative = false
      · rw [if_pos hrest, if_pos (by simpa [hsign] using hrest)]
        rfl
      · rw [if_neg hrest, if_neg (by simpa [hsign] using hrest), hlength]
        have hfront : (term :: rest).takeWhile (!·.isNegative) =
            term :: rest.takeWhile (!·.isNegative) :=
          List.takeWhile_cons_of_pos (by simp [hsign])
        rw [hfront, renderTail_cons]
        simp only [Except.map, List.length_cons, List.length_append, List.length_nil]
        congr 2
        omega

/-- A written sum is read back exactly if no term behind the first is negative. Otherwise the plus sign in
front of the first such term is at fault. -/
theorem read_render (terms : List Term) (h : ∀ term ∈ terms, term.InBounds) :
    read (render terms) =
      if ∀ term ∈ terms.tail, term.isNegative = false then .ok terms
      else .error {
        token := ['+']
        position := (render (beforeNegative terms)).length + 1
        fault := .unknown } := by
  cases terms with
  | nil => simp [render, joinWith, read, readFrom]
  | cons term rest =>
    have hterm := h term List.mem_cons_self
    have hread : (term.token term.ownSign []).terms magnitude = .ok [term] :=
      Term.terms_token hterm rfl (fun _ => rfl) (.inl rfl)
    have hlength : (term.token term.ownSign []).text.length = term.render.length := by
      rw [Term.render_eq_text hterm]
    have hfront : beforeNegative (term :: rest) = term :: rest.takeWhile (!·.isNegative) := rfl
    rw [read, scan_render_cons hterm, readFrom_cons_of_ok hread,
      readFrom_renderTail _ _ fun other hother => h other (List.mem_cons_of_mem _ hother),
      List.tail_cons, hfront, render_cons, hlength]
    split
    · rfl
    · simp only [Except.map, List.length_append, Nat.zero_add]

/-- The sum `-2d20 + 3 + -5` is not read back: its second plus sign is at fault. -/
theorem read_render_negative_last :
    (∀ term ∈ [Term.dice (-2) 20, .constant 3, .constant (-5)], term.InBounds) ∧
      read (render [.dice (-2) 20, .constant 3, .constant (-5)]) =
        .error { token := ['+'], position := 10, fault := .unknown } := by
  have hin : ∀ term ∈ [Term.dice (-2) 20, .constant 3, .constant (-5)], term.InBounds := by decide
  have hlength : (render (beforeNegative [.dice (-2) 20, .constant 3, .constant (-5)])).length = 9 := by
    decide +kernel
  refine ⟨hin, ?_⟩
  rw [read_render _ hin, if_neg (by decide), hlength]

end DiceSum
