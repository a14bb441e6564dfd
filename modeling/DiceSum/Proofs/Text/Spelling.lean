import DiceSum.Proofs.Text.Run

/-!
# Spelling

The plain spelling of a text has small letters for dice, a single space for every run of blanks, no space at
an end or next to a sign, and no leading zeros (`plain`). Each of the four changes is a pass over the
characters of the text.

Small letters and dropped zeros change no character into one of another kind. So a class that does not tell
the letters of a die apart, nor digits, holds of the start of a text exactly if it holds after the change
(`startsWith_map_smallMark`, `startsWith_dropLeadingZeros`).
-/

namespace DiceSum

/-- The small letter of a die in place of the capital one. -/
def smallMark (c : Char) : Char :=
  if c = 'D' then 'd' else c

/-- A text with a single space for every run of blanks. -/
def collapseBlanks : Text → Text
  | [] => []
  | c :: s =>
    if isBlank c then
      if startsWith isBlank s then collapseBlanks s else ' ' :: collapseBlanks s
    else c :: collapseBlanks s

/-- Whether a space next to this character, or to an end of the text, is idle. -/
def isEdge : Option Char → Bool
  | none => true
  | some c => isSignMark c

/-- A text without the spaces that stand at an end of it or next to a sign; `before` is the character in
front of the text, if there is one. -/
def dropIdleSpaces (before : Option Char) : Text → Text
  | [] => []
  | c :: s =>
    if c = ' ' ∧ (isEdge before || isEdge s.head?) then dropIdleSpaces (some c) s
    else c :: dropIdleSpaces (some c) s

/-- A text without leading zeros in its runs of digits; `inside` tells whether the text goes on with a run
that has begun with another digit. -/
def dropLeadingZeros (inside : Bool) : Text → Text
  | [] => []
  | c :: s =>
    if c = '0' ∧ inside = false ∧ startsWith Char.isDigit s then dropLeadingZeros false s
    else c :: dropLeadingZeros c.isDigit s

/-- The plain spelling of a text. -/
def plain (text : Text) : Text :=
  dropLeadingZeros false (dropIdleSpaces none (collapseBlanks (text.map smallMark)))

/-- A class that does not tell the letters of a die apart, nor any two digits. -/
structure IsCoarse (p : Char → Bool) : Prop where
  mark : p 'D' = p 'd'
  digit : ∀ c, c.isDigit = true → p c = p '0'

/-- Digits are a coarse class. -/
theorem isCoarse_isDigit : IsCoarse Char.isDigit where
  mark := rfl
  digit c hc := by
    rw [hc]
    rfl

/-- A class without digits is coarse if it has both letters of a die or neither. -/
theorem isCoarse_of_digit_free {p : Char → Bool} (hmark : p 'D' = p 'd')
    (hdigit : ∀ c, c.isDigit = true → p c = false) : IsCoarse p where
  mark := hmark
  digit c hc := by rw [hdigit c hc, hdigit '0' rfl]

/-- Blanks are a coarse class. -/
theorem isCoarse_isBlank : IsCoarse isBlank :=
  isCoarse_of_digit_free rfl fun _ hc => (isDigit_only hc).1

/-- The marks of signs are a coarse class. -/
theorem isCoarse_isSignMark : IsCoarse isSignMark :=
  isCoarse_of_digit_free rfl fun _ hc => (isDigit_only hc).2.2

/-- The letters of a die are a coarse class. -/
theorem isCoarse_isDieMark : IsCoarse isDieMark :=
  isCoarse_of_digit_free rfl fun _ hc => (isDigit_only hc).2.1

/-- What is outside a coarse class is one, too. -/
theorem IsCoarse.not {p : Char → Bool} (h : IsCoarse p) : IsCoarse (!p ·) where
  mark := by rw [h.mark]
  digit c hc := by rw [h.digit c hc]

section Letters

variable {p : Char → Bool} {s : Text}

/-- The small letter of a die is in the same coarse classes as the large one. -/
theorem IsCoarse.smallMark (h : IsCoarse p) (c : Char) : p (smallMark c) = p c := by
  unfold DiceSum.smallMark
  split
  · rename_i hc
    rw [hc, h.mark]
  · rfl

/-- Small letters in place of large ones do not change how a text starts. -/
theorem startsWith_map_smallMark (h : IsCoarse p) (s : Text) :
    startsWith p (s.map smallMark) = startsWith p s := by
  cases s with
  | nil => rfl
  | cons c s => exact h.smallMark c

/-- A text without the letters of dice stays as it is. -/
theorem map_smallMark_of_all (h : p 'D' = false) (hs : s.all p = true) : s.map smallMark = s := by
  induction s with
  | nil => rfl
  | cons c s ih =>
    simp only [List.all_cons, Bool.and_eq_true] at hs
    have hc : c ≠ 'D' := by
      rintro rfl
      simp [h] at hs
    rw [List.map_cons, ih hs.2, smallMark, if_neg hc]

/-- A sign is not changed by writing small letters. -/
theorem map_smallMark_sign (sign : Option Sign) : (Sign.text sign).map smallMark = Sign.text sign := by
  cases sign with
  | none => rfl
  | some sign => cases sign <;> rfl

end Letters

section Zeros

variable {p : Char → Bool} {s t : Text}

/-- What is no digit is kept, and a number may start behind it. -/
theorem dropLeadingZeros_cons_of_not_digit {c : Char} (hc : c.isDigit = false) (inside : Bool)
    (s : Text) : dropLeadingZeros inside (c :: s) = c :: dropLeadingZeros false s := by
  have hzero : c ≠ '0' := by
    rintro rfl
    cases hc
  rw [dropLeadingZeros, if_neg (fun h => hzero h.1), hc]

/-- Whether a run of digits has begun does not matter to a text that does not start with a digit. -/
theorem dropLeadingZeros_of_not_digit (h : startsWith Char.isDigit s = false) (inside : Bool) :
    dropLeadingZeros inside s = dropLeadingZeros false s := by
  cases s with
  | nil => rfl
  | cons c s => rw [dropLeadingZeros_cons_of_not_digit h, dropLeadingZeros_cons_of_not_digit h]

/-- Runs of digits end before what is no digit. -/
theorem dropLeadingZeros_append (ht : startsWith Char.isDigit t = false) (inside : Bool) (s : Text) :
    dropLeadingZeros inside (s ++ t) = dropLeadingZeros inside s ++ dropLeadingZeros false t := by
  induction s generalizing inside with
  | nil => exact dropLeadingZeros_of_not_digit ht inside
  | cons c s ih =>
    rw [List.cons_append, dropLeadingZeros, dropLeadingZeros, startsWith_append_of_not ht]
    split
    · rw [ih]
    · rw [ih, List.cons_append]

/-- Nothing is added or changed where leading zeros are left out. -/
theorem dropLeadingZeros_sublist (inside : Bool) (s : Text) :
    (dropLeadingZeros inside s).Sublist s := by
  induction s generalizing inside with
  | nil => exact List.Sublist.refl []
  | cons c s ih =>
    rw [dropLeadingZeros]
    split
    · exact (ih false).cons c
    · exact (ih c.isDigit).cons_cons c

/-- Dropping leading zeros leaves a digit where there was one. -/
theorem startsWith_dropLeadingZeros (hp : IsCoarse p) (s : Text) :
    startsWith p (dropLeadingZeros false s) = startsWith p s := by
  induction s with
  | nil => rfl
  | cons c s ih =>
    rw [dropLeadingZeros]
    split
    · rename_i h
      obtain ⟨rfl, -, hdigit⟩ := h
      rw [ih, startsWith_cons]
      cases s with
      | nil => simp at hdigit
      | cons d s => exact hp.digit d hdigit
    · rfl

/-- Inside a number no digit is left out. -/
theorem dropLeadingZeros_inside (hs : s.all Char.isDigit = true) : dropLeadingZeros true s = s := by
  induction s with
  | nil => rfl
  | cons c s ih =>
    simp only [List.all_cons, Bool.and_eq_true] at hs
    rw [dropLeadingZeros, if_neg (by simp), hs.1, ih hs.2]

/-- A text without leading zeros is empty only if the text was. -/
theorem dropLeadingZeros_eq_nil_iff : dropLeadingZeros false s = [] ↔ s = [] := by
  have hstart := startsWith_dropLeadingZeros (p := fun _ => true) ⟨rfl, fun _ _ => rfl⟩ s
  cases s with
  | nil => simp [dropLeadingZeros]
  | cons c s =>
    constructor
    · intro hnil
      rw [hnil] at hstart
      simp at hstart
    · intro hnil
      cases hnil

/-- What all characters of a text have in common, those that are kept have. -/
theorem all_dropLeadingZeros (hs : s.all p = true) : (dropLeadingZeros false s).all p = true := by
  rw [List.all_eq_true] at hs ⊢
  exact fun c hc => hs c ((dropLeadingZeros_sublist false s).subset hc)

/-- A text without digits in front is kept as it is. -/
theorem dropLeadingZeros_front (hs : ∀ c ∈ s, c.isDigit = false) (t : Text) :
    dropLeadingZeros false (s ++ t) = s ++ dropLeadingZeros false t := by
  induction s with
  | nil => rfl
  | cons c s ih =>
    rw [List.forall_mem_cons] at hs
    rw [List.cons_append, dropLeadingZeros_cons_of_not_digit hs.1, ih hs.2, List.cons_append]

end Zeros

end DiceSum
