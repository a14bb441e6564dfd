import DiceSum.Proofs.Reading.Culprit
import DiceSum.Proofs.Rendering.Unambiguous
import DiceSum.Report

/-!
# Records on one line

What a client sends is quoted in the log, so it cannot break a record into several lines. The one
exception is the message of a refusal, in which a token stands as it was written. Dice and constants may
have blanks behind their sign, and a line feed or a carriage return is a blank. So a record of a request
to a service has several lines exactly if it is the service's own, about a token whose sign is followed by
such a break (`isInline_record_iff`). A client can bring that about (`record_with_line_feed`).
-/

namespace DiceSum

section Inline

variable {text : Text}

/-- A text without line feeds and carriage returns stands on one line. -/
theorem isInline_of_notMem (hfeed : '\n' ∉ text) (hreturn : '\r' ∉ text) : isInline text = true := by
  rw [isInline, List.all_eq_true]
  intro c hc
  simp [ne_of_mem_of_not_mem hc hfeed, ne_of_mem_of_not_mem hc hreturn]

/-- A run of characters of a class without line breaks stands on one line. -/
theorem isInline_of_all {p : Char → Bool} (hfeed : p '\n' = false) (hreturn : p '\r' = false)
    (h : text.all p = true) : isInline text = true := by
  rw [List.all_eq_true] at h
  apply isInline_of_notMem
  · intro hmem
    exact absurd (h _ hmem) (by simp [hfeed])
  · intro hmem
    exact absurd (h _ hmem) (by simp [hreturn])

/-- A written natural number stands on one line. -/
theorem isInline_ofNat (n : Nat) : isInline (Decimal.ofNat n) = true :=
  isInline_of_notMem (Decimal.notMem_ofNat rfl n) (Decimal.notMem_ofNat rfl n)

/-- A written integer stands on one line. -/
theorem isInline_ofInt (n : Int) : isInline (Decimal.ofInt n) = true :=
  isInline_of_notMem (Decimal.notMem_ofInt rfl (by decide) n) (Decimal.notMem_ofInt rfl (by decide) n)

/-- A written sum stands on one line. -/
theorem isInline_render (terms : List Term) : isInline (render terms) = true := by
  have hparts (c : Char) (hdigit : c.isDigit = false) (hsign : c ≠ '-') (hmark : c ≠ 'd') :
      ∀ part ∈ terms.map Term.render, c ∉ part := by
    intro part hpart
    obtain ⟨term, -, rfl⟩ := List.mem_map.mp hpart
    exact term.notMem_render hdigit hsign hmark
  apply isInline_of_notMem
  · exact notMem_joinWith (by decide) (hparts _ rfl (by decide) (by decide))
  · exact notMem_joinWith (by decide) (hparts _ rfl (by decide) (by decide))

end Inline

/-- Whether a text is a sign, blanks with a line break among them, and more. -/
def BreaksBehindSign (text : Text) : Prop :=
  ∃ (sign : Sign) (blanks rest : Text),
    text = sign.char :: (blanks ++ rest) ∧ blanks.all isBlank = true ∧ isInline blanks = false

/-- A text that breaks behind a sign does not stand on one line. -/
theorem isInline_of_breaksBehindSign {text : Text} (h : BreaksBehindSign text) :
    isInline text = false := by
  obtain ⟨sign, blanks, rest, rfl, -, hbreak⟩ := h
  simp [hbreak]

/-- In front of a number, a line break can stand only among the blanks behind a sign. -/
theorem Token.IsNumber.breaksBehindSign {sign : Option Sign} {blanks digits rest : Text}
    (h : IsNumber sign blanks digits) (hrest : isInline rest = true)
    (hbreak : isInline (Sign.text sign ++ blanks ++ digits ++ rest) = false) :
    BreaksBehindSign (Sign.text sign ++ blanks ++ digits ++ rest) := by
  have hdigits : isInline digits = true := isInline_of_all rfl rfl h.all_digits
  cases sign with
  | none =>
    rw [h.unsigned rfl] at hbreak
    simp only [isInline_append, hdigits, hrest] at hbreak
    cases hbreak
  | some sign =>
    have hsign : isInline (Sign.text (some sign)) = true := by cases sign <;> rfl
    refine ⟨sign, blanks, digits ++ rest, by simp [Sign.text], h.all_blanks, ?_⟩
    simpa [hsign, hdigits, hrest] using hbreak

/-- A token at fault has a line break exactly if it has one behind its sign. -/
theorem Token.Maximal.isInline_eq_false_iff {token : Token} {rest : Text} (h : Maximal token rest)
    {convert : Conversion} {fault : Fault} (hfault : token.terms convert = .error fault) :
    isInline token.text = false ↔ BreaksBehindSign token.text := by
  refine ⟨fun hbreak => ?_, isInline_of_breaksBehindSign⟩
  cases h with
  | gap => cases hfault
  | @dice sign blanks count sides rest mark number is_mark nonempty all_sides stop =>
    have hmark : isInline [mark] = true :=
      isInline_of_all (p := isDieMark) rfl rfl (by simp [is_mark])
    have hsides : isInline (mark :: sides) = true := by
      rw [← List.singleton_append, isInline_append, hmark, isInline_of_all rfl rfl all_sides]
      rfl
    exact number.breaksBehindSign hsides hbreak
  | @constant sign blanks digits rest number nonempty stop no_die =>
    have hall := number.breaksBehindSign (show isInline [] = true from rfl)
    rw [List.append_nil] at hall
    exact hall hbreak
  | @unknown run rest nonempty all_inked stop no_digit no_die =>
    have hinline : isInline run = true := isInline_of_all rfl rfl all_inked
    exact absurd hbreak (by simp [Token.text, hinline])

/-- The name of a field stands on one line. -/
theorem Field.isInline_name (field : Field) : isInline field.name = true := by
  cases field <;> rfl

/-- The message of a refusal stands on one line exactly if the token does that it is about. -/
theorem Rejection.isInline_message (rejection : Rejection) :
    isInline rejection.refusal.message = isInline rejection.token := by
  have hplace : isInline "' at position ".toList = true := by decide +kernel
  rw [rejection.refusal_eq]
  cases rejection.fault.field? with
  | none =>
    have hopen : isInline "[INVALID_TOKEN] Could not understand token '".toList = true := by
      decide +kernel
    have hclose : isInline ". Example: '2d20 + 5' or '-d8 - 3'.".toList = true := by decide +kernel
    change isInline ("[INVALID_TOKEN] Could not understand token '".toList ++ rejection.token ++
      "' at position ".toList ++ Decimal.ofNat rejection.position ++
        ". Example: '2d20 + 5' or '-d8 - 3'.".toList) = _
    simp only [isInline_append, isInline_ofNat, hopen, hplace, hclose, Bool.true_and, Bool.and_true]
  | some field =>
    have hopen : isInline "[NUMERIC_OVERFLOW] The ".toList = true := by decide +kernel
    have hquote : isInline " in '".toList = true := by decide +kernel
    have hclose : isInline " is out of range.".toList = true := by decide +kernel
    change isInline ("[NUMERIC_OVERFLOW] The ".toList ++ field.name ++ " in '".toList ++
      rejection.token ++ "' at position ".toList ++ Decimal.ofNat rejection.position ++
        " is out of range.".toList) = _
    simp only [isInline_append, isInline_ofNat, field.isInline_name, hopen, hquote, hplace, hclose,
      Bool.true_and, Bool.and_true]

/-- The words for a rejection stand on one line: a token is quoted there, and so is the text. -/
theorem Rejection.isInline_report (rejection : Rejection) (text : Text) :
    isInline (rejection.report text) = true := by
  unfold report
  cases rejection.fault with
  | tooLong field digits =>
    simp only [isInline_append, isInline_ofNat, field.isInline_name]
    decide +kernel
  | outside field value =>
    simp only [isInline_append, isInline_cons, isInline_ofInt, isInline_quoted, field.isInline_name]
    decide +kernel
  | noSides =>
    simp only [isInline_append, isInline_quoted]
    decide +kernel
  | unknown =>
    simp only [isInline_append, isInline_ofNat, isInline_quoted]
    decide +kernel

namespace Event

/-- The level and the origin of an event are no text of a client. -/
theorem isInline_record (event : Event) : isInline event.record = isInline event.message := by
  have hlevel : isInline event.level.name = true := by cases event <;> rfl
  have horigin : isInline event.origin = true := by cases event <;> rfl
  have hcolon : isInline ": ".toList = true := rfl
  simp only [record, isInline_append, isInline_cons, hlevel, horigin, hcolon, Bool.true_and,
    Bool.and_true]
  rfl

/-- The message of a roll stands on one line. -/
theorem isInline_message_rolled (terms : List Term) (total : Int) :
    isInline (rolled terms total).message = true := by
  change isInline ("Rolled ".toList ++ render terms ++ " => ".toList ++ Decimal.ofInt total) = true
  simp only [isInline_append, isInline_ofInt, isInline_render]
  rfl

/-- The message of a reading stands on one line, as it quotes what it says of the text. -/
theorem isInline_message_ofReading (text : Text) (outcome : Except Rejection (List Term)) :
    isInline (ofReading text outcome).message = true := by
  cases outcome with
  | ok terms =>
    change isInline ("Parsed ".toList ++ Decimal.ofNat terms.length ++ " term(s) from ".toList ++
      quoted text) = true
    simp only [isInline_append, isInline_ofNat, isInline_quoted]
    rfl
  | error rejection => exact rejection.isInline_report text

/-- The message of a declined text stands on one line just if that of the refusal does. -/
theorem isInline_message_declined (text : Text) (refusal : Refusal) :
    isInline (declined text refusal).message = isInline refusal.message := by
  have hopen : isInline "Rejected roll request ".toList = true := by decide +kernel
  have hcolon : isInline ": ".toList = true := rfl
  change isInline ("Rejected roll request ".toList ++ quoted text ++ ": ".toList ++
    refusal.message) = _
  simp only [isInline_append, isInline_quoted, hopen, hcolon, Bool.true_and]

end Event

/-- A request to a service leaves a record of its reading, and then one of its roll or one that declines. -/
theorem mem_serveEvents_iff {text : Text} {outcome : Except Failure Report} {event : Event} :
    event ∈ serveEvents text outcome ↔
      event = .ofReading text (read text) ∨
        (∃ report, outcome = .ok report ∧ event = .rolled report.terms report.total) ∨
        ∃ refusal, readSome text = .error refusal ∧ event = .declined text refusal := by
  unfold serveEvents answerEvents
  cases outcome <;> cases readSome text <;> simp

/-- A text is refused for its first token at fault, or for want of terms. -/
theorem readSome_eq_error_iff {text : Text} {refusal : Refusal} :
    readSome text = .error refusal ↔
      (∃ rejection, read text = .error rejection ∧ refusal = rejection.refusal) ∨
        read text = .ok [] ∧ refusal = .nothingToRoll := by
  unfold readSome
  cases read text with
  | error rejection => simp [eq_comm]
  | ok terms =>
    cases terms with
    | nil => simp [eq_comm]
    | cons term terms => simp

/-- The token of a rejection has a line break exactly if it has one behind its sign. -/
theorem isInline_token_of_read {text : Text} {rejection : Rejection}
    (h : read text = .error rejection) :
    isInline rejection.token = false ↔ BreaksBehindSign rejection.token := by
  obtain ⟨before, token, rest, fault, -, hmaximal, hfault, rfl, -⟩ := split_of_readFrom h
  exact hmaximal.isInline_eq_false_iff hfault

/-- Of the records that a request to a service leaves, just one can have several lines: the record with
which the service declines a text, and only if the token at fault has a line break between its sign and
what follows. -/
theorem isInline_record_iff {σ : Type} (draw : Int → Drawing σ Int) (text : Text) (withMean : Bool)
    (before : σ) {event : Event}
    (h : event ∈ serveEvents text ((serve draw text withMean).run.run before).1) :
    isInline event.record = false ↔
      ∃ rejection, read text = .error rejection ∧ event = .declined text rejection.refusal ∧
        BreaksBehindSign rejection.token := by
  rw [Event.isInline_record]
  rcases mem_serveEvents_iff.mp h with rfl | ⟨report, -, rfl⟩ | ⟨refusal, hrefused, rfl⟩
  · rw [Event.isInline_message_ofReading]
    cases read text <;> simp [Event.ofReading]
  · rw [Event.isInline_message_rolled]
    simp
  · rw [Event.isInline_message_declined]
    rcases readSome_eq_error_iff.mp hrefused with ⟨rejection, hread, rfl⟩ | ⟨hread, rfl⟩
    · rw [rejection.isInline_message, isInline_token_of_read hread, hread]
      simp
    · have hinline : isInline Refusal.nothingToRoll.message = true := by decide +kernel
      rw [hinline, hread]
      simp

/-- A line feed behind a sign, in a text that a service declines for want of sides, gets into the log as
it is, and breaks the record of the service into two lines. -/
theorem record_with_line_feed :
    ∃ event ∈ serveEvents "+\nd0".toList
        ((serve Source.draw "+\nd0".toList false).run.run (.script ⟨#[1], 0⟩)).1,
      '\n' ∈ event.record := by
  decide +kernel

/-- The record that declines a constant with a carriage return behind its sign has several lines. -/
theorem isInline_record_iff_carriage_return :
    (.declined "d6 -\r 3000000000".toList (.outOfRange .constant "-\r 3000000000".toList 3) : Event) ∈
        serveEvents "d6 -\r 3000000000".toList
          ((serve Source.draw "d6 -\r 3000000000".toList true).run.run (.script ⟨#[1], 0⟩)).1 ∧
      isInline (Event.declined "d6 -\r 3000000000".toList
        (.outOfRange .constant "-\r 3000000000".toList 3)).record = false := by
  have hread : read "d6 -\r 3000000000".toList = .error
      { token := "-\r 3000000000".toList, position := 3, fault := .outside .constant (-3000000000) } := by
    decide +kernel
  have hmem : (.declined "d6 -\r 3000000000".toList
      (.outOfRange .constant "-\r 3000000000".toList 3) : Event) ∈
        serveEvents "d6 -\r 3000000000".toList
          ((serve Source.draw "d6 -\r 3000000000".toList true).run.run (.script ⟨#[1], 0⟩)).1 := by
    decide +kernel
  refine ⟨hmem, (isInline_record_iff Source.draw _ true _ hmem).mpr ⟨_, hread, rfl, ?_⟩⟩
  exact ⟨.minus, "\r ".toList, "3000000000".toList, by decide +kernel, rfl, rfl⟩

end DiceSum
