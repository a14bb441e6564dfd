import DiceSum.Proofs.Reading.Faults
import DiceSum.Proofs.Reading.Rejected

/-!
# The token at fault

A rejection points at the token at fault: the token stands in the text at the position that is named, the
text before it is accepted, and the text up to its end is rejected in the same way (`pointsAt_of_read`).
So nothing behind the token matters, and nothing before it is to blame.

Reading stops at the first token at fault, and cutting a text short behind a token that is read changes
none of the tokens before the cut. So what stands before the token at fault is read in the same way
whatever is left of the text behind it (`split_of_readFrom`).
-/

namespace DiceSum

open Token

variable {token : Token} {rest : Text}

/-- Whether a text is a single dice token with no sides. -/
def IsZeroSided (text : Text) : Prop :=
  ∃ sign count sides, IsDiceText text sign count sides ∧ Decimal.value sides = 0

/-- A rejection points at the first token at fault in a text. -/
structure Rejection.PointsAt (rejection : Rejection) (text : Text) : Prop where
  nonempty : rejection.token ≠ []
  starts_inked : startsWith isBlank rejection.token = false
  ends_inked : endsWith isBlank rejection.token = false
  /-- The token stands at its position. -/
  stands : (text.drop rejection.position).take rejection.token.length = rejection.token
  /-- The text before the token is accepted. -/
  accepted : ∃ terms, read (text.take rejection.position) = .ok terms
  /-- The text up to the end of the token is rejected in the same way. -/
  rejected : read (text.take rejection.position ++ rejection.token) = .error rejection
  /-- A token that is not understood goes on up to a blank or the end of the text, unless it is that of
  dice with no sides. -/
  run : rejection.refusal = .notUnderstood rejection.token rejection.position →
    ¬ IsZeroSided rejection.token →
      rejection.token.all (!isBlank ·) = true ∧
        startsWith (!isBlank ·) (text.drop (rejection.position + rejection.token.length)) = false

/-- A token at fault has no blanks at its ends. -/
theorem Token.Maximal.inked_of_error (h : Maximal token rest) {convert : Conversion} {fault : Fault}
    (hfault : token.terms convert = .error fault) :
    startsWith isBlank token.text = false ∧ endsWith isBlank token.text = false := by
  have hdigits : ∀ c, c.isDigit = true → isBlank c = false := fun c hc => (isDigit_only hc).1
  cases h with
  | gap => cases hfault
  | @dice sign blanks count sides rest mark number is_mark nonempty all_sides stop =>
    have hcount : startsWith isBlank (count ++ mark :: sides) = false :=
      startsWith_digits_append (.inl rfl) number.all_digits fun _ => (isDieMark_only is_mark).1
    have htext : (Token.dice sign blanks count mark sides).text =
        Sign.text sign ++ blanks ++ count ++ [mark] ++ sides := by
      simp [Token.text]
    refine ⟨number.startsWith_text hcount, ?_⟩
    rw [htext, endsWith_append nonempty]
    exact endsWith_run all_sides hdigits
  | @constant sign blanks digits rest number nonempty stop no_die =>
    have hstart : startsWith isBlank (digits ++ []) = false :=
      startsWith_digits_append (.inl rfl) number.all_digits fun hnil => absurd hnil nonempty
    have hwhole := number.startsWith_text hstart
    rw [List.append_nil] at hwhole
    refine ⟨hwhole, ?_⟩
    rw [Token.text, endsWith_append nonempty]
    exact endsWith_run number.all_digits hdigits
  | @unknown run rest nonempty all_inked stop no_digit no_die =>
    have hinked : ∀ c, (!isBlank c) = true → isBlank c = false := fun c hc => by simpa using hc
    refine ⟨?_, endsWith_run all_inked hinked⟩
    have hstart : startsWith isBlank (run ++ []) = false :=
      startsWith_run_append all_inked hinked fun hnil => absurd hnil nonempty
    rwa [List.append_nil] at hstart

/-- A token that is not understood is dice with no sides or a run of anything. -/
theorem Token.Maximal.eq_unknown_of_error (h : Maximal token rest) {fault : Fault}
    (hfault : token.terms magnitude = .error fault) (hfield : fault.field? = none)
    (hsides : ¬ IsZeroSided token.text) : ∃ run, token = .unknown run := by
  cases h with
  | gap => cases hfault
  | @dice sign blanks count sides rest mark number is_mark nonempty all_sides stop =>
    have hdice := map_eq_error_iff.mp hfault
    rcases fault_of_readDice hdice with ⟨field, hsome⟩ | ⟨-, hzero⟩
    · simp [hsome] at hfield
    · exact absurd ⟨sign, count, sides, ⟨blanks, mark,
        .dice number is_mark nonempty all_sides rfl, rfl⟩, hzero⟩ hsides
  | @constant sign blanks digits rest number nonempty stop no_die =>
    obtain ⟨field, hsome⟩ := fault_of_readConstant (map_eq_error_iff.mp hfault)
    simp [hsome] at hfield
  | @unknown run => exact ⟨run, rfl⟩

/-- What stands before the token at fault is read, and in the same way before every shorter rest of the
text. -/
theorem split_of_readFrom {convert : Conversion} {position : Nat} {text : Text} {rejection : Rejection}
    (h : readFrom convert position (scan text) = .error rejection) :
    ∃ before token rest fault, text = before ++ (token.text ++ rest) ∧ Token.Maximal token rest ∧
      token.terms convert = .error fault ∧
      rejection = { token := token.text, position := position + before.length, fault } ∧
      ∃ terms, ∀ short, short <+: token.text ++ rest →
        readFrom convert position (scan (before ++ short)) =
          (readFrom convert (position + before.length) (scan short)).map (terms ++ ·) := by
  induction text using scan_induction generalizing position with
  | nil => simp [readFrom] at h
  | cut token rest hmaximal ih =>
    rw [scan_append hmaximal, readFrom] at h
    cases hterms : token.terms convert with
    | error fault =>
      rw [hterms] at h
      obtain rfl := Except.error.inj h
      refine ⟨[], token, rest, fault, rfl, hmaximal, hterms, rfl, [], fun short _ => ?_⟩
      rw [List.nil_append, List.length_nil, Nat.add_zero]
      cases readFrom convert position (scan short) <;> rfl
    | ok first =>
      rw [hterms] at h
      obtain ⟨before, culprit, behind, fault, rfl, hculprit, hfault, rfl, more, hmore⟩ :=
        ih (map_eq_error_iff.mp h)
      refine ⟨token.text ++ before, culprit, behind, fault, by rw [List.append_assoc], hculprit, hfault,
        by rw [List.length_append, Nat.add_assoc], first ++ more, fun short hshort => ?_⟩
      obtain ⟨dropped, hdropped⟩ := hshort
      -- The token stays complete when the rest of its text is cut short.
      have hcut : Token.Maximal token (before ++ short) := by
        rw [← hdropped, ← List.append_assoc] at hmaximal
        exact hmaximal.of_append hterms
      rw [List.append_assoc, scan_append hcut, readFrom_cons_of_ok hterms, hmore short ⟨dropped, hdropped⟩,
        List.length_append, Nat.add_assoc]
      cases readFrom convert (position + (token.text.length + before.length)) (scan short) <;>
        simp [Except.map]

/-- A rejection points at the first token at fault. -/
theorem pointsAt_of_read {text : Text} {rejection : Rejection} (h : read text = .error rejection) :
    rejection.PointsAt text := by
  obtain ⟨before, token, rest, fault, rfl, hmaximal, hfault, rfl, terms, hbefore⟩ := split_of_readFrom h
  simp only [Nat.zero_add] at hbefore ⊢
  have htake : (before ++ (token.text ++ rest)).take before.length = before := List.take_left
  have hdrop : (before ++ (token.text ++ rest)).drop before.length = token.text ++ rest :=
    List.drop_left
  have hempty : readFrom magnitude before.length (scan []) = .ok [] := by rw [scan_nil, readFrom]
  have halone : readFrom magnitude before.length (scan token.text) =
      .error { token := token.text, position := before.length, fault } := by
    have hscan : scan (token.text ++ []) = [token] := by rw [scan_append hmaximal.alone, scan_nil]
    rw [List.append_nil] at hscan
    rw [hscan, readFrom, hfault]
  obtain ⟨hstart, hend⟩ := hmaximal.inked_of_error hfault
  refine ⟨hmaximal.text_ne_nil, hstart, hend, ?stands, ⟨terms, ?accepted⟩, ?rejected, ?run⟩
  case stands =>
    rw [hdrop]
    exact List.take_left
  case accepted =>
    have hread := hbefore [] List.nil_prefix
    rw [List.append_nil, hempty] at hread
    rw [htake, read, hread, Except.map, List.append_nil]
  case rejected =>
    rw [htake, read, hbefore token.text (List.prefix_append _ _), halone]
    rfl
  case run =>
    intro hrefusal hsides
    have hfield : fault.field? = none := by
      rw [Rejection.refusal_eq] at hrefusal
      cases hcase : fault.field? with
      | none => rfl
      | some field => simp [hcase] at hrefusal
    obtain ⟨run, rfl⟩ := hmaximal.eq_unknown_of_error hfault hfield hsides
    cases hmaximal with
    | unknown nonempty all_inked stop =>
      refine ⟨all_inked, ?_⟩
      rw [← List.drop_drop, hdrop, List.drop_left]
      exact stop

/-- In `2d6 +\t-5`, the rejection points at the plus sign, which blanks separate from the minus sign. -/
theorem pointsAt_of_read_sign :
    read "2d6 +\t-5".toList = .error { token := ['+'], position := 4, fault := .unknown } ∧
      Rejection.PointsAt { token := ['+'], position := 4, fault := .unknown } "2d6 +\t-5".toList := by
  have hread :
      read "2d6 +\t-5".toList = .error { token := ['+'], position := 4, fault := .unknown } := by
    decide +kernel
  exact ⟨hread, pointsAt_of_read hread⟩

end DiceSum
