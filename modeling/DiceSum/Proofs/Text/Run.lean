import DiceSum.Token

/-!
# Runs of characters

A run is a maximal stretch of characters of one class. Cutting a run off a text takes exactly the run
when the text behind it starts with a character of another class. The classes that matter for dice
notation are blanks, digits, die letters and signs, and no character is in two of them.
-/

namespace DiceSum

/-- The characters that a signed number may start with. -/
def isSignMark (c : Char) : Bool :=
  c == '+' || c == '-'

/-- A sign is in no other class. -/
theorem isSignMark_only {c : Char} (h : isSignMark c = true) :
    isBlank c = false ∧ c.isDigit = false ∧ isDieMark c = false := by
  have hcases : c = '+' ∨ c = '-' := by simpa [isSignMark] using h
  rcases hcases with rfl | rfl <;> decide

/-- The letter of a die is in no other class. -/
theorem isDieMark_only {c : Char} (h : isDieMark c = true) :
    isBlank c = false ∧ c.isDigit = false ∧ isSignMark c = false := by
  have hcases : c = 'd' ∨ c = 'D' := by simpa [isDieMark] using h
  rcases hcases with rfl | rfl <;> decide

/-- A blank is in no other class. -/
theorem isBlank_only {c : Char} (h : isBlank c = true) :
    c.isDigit = false ∧ isDieMark c = false ∧ isSignMark c = false := by
  refine ⟨(isBlank_disjoint h).1, (isBlank_disjoint h).2, ?_⟩
  cases hsign : isSignMark c with
  | false => rfl
  | true => simp [(isSignMark_only hsign).1] at h

/-- A digit is in no other class. -/
theorem isDigit_only {c : Char} (h : c.isDigit = true) :
    isBlank c = false ∧ isDieMark c = false ∧ isSignMark c = false := by
  refine ⟨?_, ?_, ?_⟩
  · cases hblank : isBlank c with
    | false => rfl
    | true => simp [(isBlank_only hblank).1] at h
  · cases hmark : isDieMark c with
    | false => rfl
    | true => simp [(isDieMark_only hmark).2.1] at h
  · cases hsign : isSignMark c with
    | false => rfl
    | true => simp [(isSignMark_only hsign).2.1] at h

/-- Whether the first character of a text is in a class. -/
def startsWith (p : Char → Bool) : Text → Bool
  | [] => false
  | c :: _ => p c

variable {p : Char → Bool}

/-- An empty text starts with no class. -/
@[simp]
theorem startsWith_nil : startsWith p [] = false := rfl

/-- A text starts with the class of its first character. -/
@[simp]
theorem startsWith_cons (c : Char) (s : Text) : startsWith p (c :: s) = p c := rfl

/-- Looking at the first character, if there is one, is asking what the text starts with. -/
theorem head?_any (s : Text) : s.head?.any p = startsWith p s := by
  cases s <;> rfl

/-- A text that has a character starts as it does with anything behind it. -/
theorem startsWith_append {s : Text} (hs : s ≠ []) (rest : Text) :
    startsWith p (s ++ rest) = startsWith p s := by
  cases s with
  | nil => exact absurd rfl hs
  | cons c s => rfl

/-- A text that starts outside a class does not change how another one in front of it starts. -/
theorem startsWith_append_of_not {s : Text} (hs : startsWith p s = false) (rest : Text) :
    startsWith p (rest ++ s) = startsWith p rest := by
  cases rest with
  | nil => exact hs
  | cons c rest => rfl

/-- A text that is cut short starts outside a class if the whole text does. -/
theorem startsWith_of_append {rest s : Text} (h : startsWith p (rest ++ s) = false) :
    startsWith p rest = false := by
  cases rest with
  | nil => rfl
  | cons c rest => exact h

/-- A text that starts with a class starts with every wider one. -/
theorem startsWith_mono {q : Char → Bool} (hclass : ∀ c, p c = true → q c = true) {s : Text}
    (h : startsWith p s = true) : startsWith q s = true := by
  cases s with
  | nil => exact h
  | cons c s => exact hclass c h

/-- A run is of its class from its first character on. -/
theorem startsWith_run {run : Text} (hne : run ≠ []) (hrun : run.all p = true) :
    startsWith p run = true := by
  cases run with
  | nil => exact absurd rfl hne
  | cons c run => simp_all

/-- A text that starts with characters of one class does not start with one of another class. -/
theorem startsWith_run_append {q : Char → Bool} {run rest : Text} (hrun : run.all q = true)
    (hdisjoint : ∀ c, q c = true → p c = false) (hrest : run = [] → startsWith p rest = false) :
    startsWith p (run ++ rest) = false := by
  cases run with
  | nil => exact hrest rfl
  | cons c run =>
    have hc : q c = true := by simp_all
    exact hdisjoint c hc

/-- Cutting a run off a text takes the run if it ends where it should. -/
theorem takeWhile_run {run rest : Text} (hrun : run.all p = true)
    (hrest : startsWith p rest = false) : (run ++ rest).takeWhile p = run := by
  rw [List.takeWhile_append_of_pos (List.all_eq_true.mp hrun)]
  cases rest with
  | nil => simp
  | cons c rest =>
    have hc : ¬ p c = true := by simpa using hrest
    rw [List.takeWhile_cons_of_neg hc, List.append_nil]

/-- Cutting a run off a text leaves the text behind the run. -/
theorem dropWhile_run {run rest : Text} (hrun : run.all p = true)
    (hrest : startsWith p rest = false) : (run ++ rest).dropWhile p = rest := by
  rw [List.dropWhile_append_of_pos (List.all_eq_true.mp hrun)]
  cases rest with
  | nil => rfl
  | cons c rest =>
    have hc : ¬ p c = true := by simpa using hrest
    rw [List.dropWhile_cons_of_neg hc]

/-- What a run leaves starts with a character of another class. -/
theorem startsWith_dropWhile (p : Char → Bool) (s : Text) :
    startsWith p (s.dropWhile p) = false := by
  induction s with
  | nil => rfl
  | cons c s ih =>
    by_cases hc : p c = true
    · rw [List.dropWhile_cons_of_pos hc, ih]
    · rw [List.dropWhile_cons_of_neg hc]
      simpa using hc

/-- A run is empty if the text starts with a character of another class. -/
theorem takeWhile_eq_nil_of_startsWith {s : Text} (h : startsWith p s = false) :
    s.takeWhile p = [] :=
  takeWhile_run List.all_nil h

/-- A run is not empty if the text starts with a character of its class. -/
theorem takeWhile_ne_nil_of_startsWith {s : Text} (h : startsWith p s = true) :
    s.takeWhile p ≠ [] := by
  cases s with
  | nil => simp at h
  | cons c s =>
    have hc : p c = true := h
    simp [List.takeWhile_cons_of_pos hc]

namespace Sign

/-- A sign is written with the character of a sign. -/
theorem isSignMark_char (sign : Sign) : isSignMark sign.char = true := by
  cases sign <;> rfl

/-- The character of a sign is that of one of the two signs. -/
theorem exists_char {c : Char} (h : isSignMark c = true) : ∃ sign : Sign, c = sign.char := by
  have hcases : c = '+' ∨ c = '-' := by simpa [isSignMark] using h
  rcases hcases with rfl | rfl
  · exact ⟨plus, rfl⟩
  · exact ⟨minus, rfl⟩

/-- A text that starts with a mark of a sign starts with a sign. -/
theorem exists_cons {s : Text} (h : startsWith isSignMark s = true) :
    ∃ (sign : Sign) (rest : Text), s = sign.char :: rest := by
  cases s with
  | nil => simp at h
  | cons c rest =>
    obtain ⟨sign, rfl⟩ := exists_char h
    exact ⟨sign, rest, rfl⟩

/-- A sign that is written is found. -/
@[simp]
theorem cut_cons (sign : Sign) (s : Text) : cut (sign.char :: s) = (some sign, s) := by
  cases sign <;> rfl

/-- Where no sign is written none is found. -/
theorem cut_of_unsigned {s : Text} (h : startsWith isSignMark s = false) : cut s = (none, s) := by
  unfold cut
  split
  · simp [isSignMark] at h
  · simp [isSignMark] at h
  · rfl

/-- A text on which no sign is found starts with none. -/
theorem startsWith_of_cut_eq_none {s : Text} (h : (cut s).1 = none) :
    startsWith isSignMark s = false := by
  cases s with
  | nil => rfl
  | cons c s =>
    cases hc : isSignMark c with
    | false => exact hc
    | true =>
      have hcases : c = '+' ∨ c = '-' := by simpa [isSignMark] using hc
      rcases hcases with rfl | rfl <;> simp [cut] at h

end Sign

end DiceSum
