import DiceSum.Proofs.Reading.Extent

/-!
# Texts with blanks between them

Blanks end dice and constants and never change them. So reading a text that is accepted, then blanks, and
then another text is reading the two one after another (`readFrom_append_blanks`), and texts that are
accepted one by one are accepted when they are joined by spaces, as all their terms in a row
(`read_joinWith`).
-/

namespace DiceSum

open Token

variable {blanks rest : Text}

/-- Blanks in front of a text are in no other class. -/
theorem startsWith_blanks (hne : blanks ≠ []) (hall : blanks.all isBlank = true) {p : Char → Bool}
    (hp : ∀ c, isBlank c = true → p c = false) (text : Text) :
    startsWith p (blanks ++ text) = false :=
  startsWith_run_append hall hp fun h => absurd h hne

/-- Blanks in front of a text open no number. -/
theorem opensNumber_blanks (hne : blanks ≠ []) (hall : blanks.all isBlank = true) (text : Text) :
    startsWith opensNumber (blanks ++ text) = false :=
  startsWith_blanks hne hall (fun c hc => by simp [opensNumber, isBlank_only hc]) text

/-- Blanks in front of a text are read over. -/
theorem readFrom_blanks (hne : blanks ≠ []) (hall : blanks.all isBlank = true) (convert : Conversion)
    (position : Nat) (text : Text) :
    readFrom convert position (scan (blanks ++ text)) =
      readFrom convert (position + blanks.length) (scan text) := by
  -- Blanks at the start of the text are one gap with those in front.
  have hsplit : text.takeWhile isBlank ++ text.dropWhile isBlank = text :=
    List.takeWhile_append_dropWhile
  have hstop := startsWith_dropWhile isBlank text
  have hgap : Maximal (gap (blanks ++ text.takeWhile isBlank)) (text.dropWhile isBlank) :=
    .gap (by simp [hne]) (by simp [hall]) hstop
  have hwhole : scan (blanks ++ text) =
      gap (blanks ++ text.takeWhile isBlank) :: scan (text.dropWhile isBlank) := by
    have hscan := scan_append hgap
    rwa [Token.text, List.append_assoc, hsplit] at hscan
  rw [hwhole, readFrom_gap, List.length_append, ← Nat.add_assoc]
  by_cases hnone : text.takeWhile isBlank = []
  · rw [hnone, List.nil_append] at hsplit
    rw [hnone, hsplit, List.length_nil, Nat.add_zero]
  · have hscan := scan_append (Maximal.gap hnone List.all_takeWhile hstop)
    rw [Token.text, hsplit] at hscan
    rw [hscan, readFrom_gap]

/-- Reading an accepted text, blanks and another text is reading the first text, and then the other from
where it starts. -/
theorem readFrom_append_blanks {first : Text} {position : Nat} {terms : List Term}
    (h : readFrom magnitude position (scan first) = .ok terms) (hne : blanks ≠ [])
    (hall : blanks.all isBlank = true) (text : Text) :
    readFrom magnitude position (scan (first ++ (blanks ++ text))) =
      (readFrom magnitude (position + first.length + blanks.length) (scan text)).map
        (terms ++ ·) := by
  induction first using scan_induction generalizing position terms with
  | nil =>
    obtain rfl : [] = terms := by simpa [readFrom] using h
    rw [List.nil_append, readFrom_blanks hne hall]
    cases readFrom magnitude (position + blanks.length) (scan text) <;> simp [Except.map]
  | cut token rest hmaximal ih =>
    rw [scan_append hmaximal, readFrom_cons_eq_ok_iff] at h
    obtain ⟨ahead, hahead, more, hmore, rfl⟩ := h
    obtain ⟨hreadable, hwritten⟩ := (terms_eq_ok_iff hmaximal).mp hahead
    by_cases hnone : token.written = []
    · cases hmaximal with
      | gap nonempty all_blanks stop =>
        obtain rfl : [] = ahead := hwritten
        -- A gap at the end of the first text runs on into the blanks.
        rw [Token.text] at hmore
        rw [Token.text, List.append_assoc, readFrom_blanks nonempty all_blanks, ih hmore,
          List.length_append, ← Nat.add_assoc, List.nil_append]
      | dice => simp [Token.written] at hnone
      | constant => simp [Token.written] at hnone
      | unknown => exact hreadable.elim
    · have hlonger := hmaximal.append hnone (opensNumber_blanks hne hall text)
      rw [List.append_assoc, scan_append hlonger, readFrom_cons_of_ok hahead, ih hmore,
        List.length_append, ← Nat.add_assoc]
      cases readFrom magnitude (position + token.text.length + rest.length + blanks.length)
          (scan text) <;> simp [Except.map]

/-- Accepted texts with blanks between them are accepted, as the terms of both. -/
theorem read_append_blanks {first second : Text} {terms more : List Term}
    (hfirst : read first = .ok terms) (hsecond : read second = .ok more) (hne : blanks ≠ [])
    (hall : blanks.all isBlank = true) :
    read (first ++ (blanks ++ second)) = .ok (terms ++ more) := by
  have hmore : readFrom magnitude (0 + first.length + blanks.length) (scan second) = .ok more :=
    readFrom_scan_eq_ok_iff.mpr (read_eq_ok_iff_readable.mp hsecond)
  rw [read, readFrom_append_blanks hfirst hne hall, hmore]
  rfl

/-- Accepted texts that are joined by spaces are accepted, as the terms of all of them. -/
theorem read_joinWith {termsOf : Text → List Term} {texts : List Text}
    (h : ∀ text ∈ texts, read text = .ok (termsOf text)) :
    read (joinWith [' '] texts) = .ok (texts.flatMap termsOf) := by
  induction texts with
  | nil => simp [joinWith, read, readFrom]
  | cons text rest ih =>
    cases rest with
    | nil => simpa [joinWith] using h text
    | cons next rest =>
      have hrest := ih fun text hmem => h text (List.mem_cons_of_mem _ hmem)
      have hjoined := read_append_blanks (h text List.mem_cons_self) hrest
        (List.cons_ne_nil ' ' []) (by decide)
      rwa [← List.append_assoc] at hjoined

end DiceSum
