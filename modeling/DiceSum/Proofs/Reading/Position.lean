import DiceSum.Proofs.Text.Run
import DiceSum.Proofs.Text.Value
import DiceSum.Term

/-!
# Dice notation position by position

The language of dice notation and the meaning of its texts, said of single positions and without cutting
a text into tokens. `IsWritten` has one condition for each class of characters: which characters there
are, what follows the letter of a die and a sign, and how large a run of digits may be where it stands.
`termsIn` lists the terms of a text: one for each letter of a die, and one for each run of digits that is
next to no such letter.

The rest of the module takes the two descriptions from left to right. `FitsFrom` and `termsFrom` are
what they say of a text that stands behind another one, with a lemma for every class of characters that
the text can start with.
-/

namespace DiceSum

/-- Whether the last character of a text is in a class. -/
def endsWith (p : Char → Bool) (s : Text) : Bool :=
  startsWith p s.reverse

/-- The last character of a text that is no blank. -/
def lastInk (s : Text) : Option Char :=
  s.reverse.find? (!isBlank ·)

/-- The characters that may follow a sign and blanks: a digit, and the letter of a die. -/
def opensNumber (c : Char) : Bool :=
  c.isDigit || isDieMark c

/-- A maximal run of digits, between what stands before it and what stands after it. -/
structure IsRun (before run after : Text) : Prop where
  nonempty : run ≠ []
  all_digits : run.all Char.isDigit = true
  start : endsWith Char.isDigit before = false
  stop : startsWith Char.isDigit after = false

/-- A text is one of dice notation. -/
structure IsWritten (text : Text) : Prop where
  /-- Every character is a blank, a sign, a digit or the letter of a die. -/
  alphabet : ∀ c ∈ text,
    isBlank c = true ∨ isSignMark c = true ∨ c.isDigit = true ∨ isDieMark c = true
  /-- A digit follows every letter of a die. -/
  marks : ∀ before mark after, text = before ++ mark :: after → isDieMark mark = true →
    startsWith Char.isDigit after = true
  /-- Behind a sign and blanks there is a digit or the letter of a die. -/
  signs : ∀ before sign after, text = before ++ sign :: after → isSignMark sign = true →
    startsWith opensNumber (after.dropWhile isBlank) = true
  /-- A run of digits behind the letter of a die is a number of sides. -/
  sides : ∀ before run after, text = before ++ run ++ after → IsRun before run after →
    endsWith isDieMark before = true →
      1 ≤ Decimal.value run ∧ Decimal.value run ≤ 2 ^ 32 - 1
  /-- Any other run of digits is a number of 32 bits with the sign in front of it. -/
  numbers : ∀ before run after, text = before ++ run ++ after → IsRun before run after →
    endsWith isDieMark before = false →
      Decimal.value run ≤ if lastInk before = some '-' then 2 ^ 31 else 2 ^ 31 - 1

/-- The digits at the end of a text. -/
def trailingDigits (s : Text) : Text :=
  (s.reverse.takeWhile Char.isDigit).reverse

/-- The digits of a count, for dice of which the letter stands behind a text: the digits right before
the letter, unless they are the sides of other dice. -/
def ownCount (before : Text) : Text :=
  if endsWith isDieMark (before.reverse.dropWhile Char.isDigit).reverse then []
  else trailingDigits before

/-- A magnitude with the sign in front of it: negative if the last character before it that is no blank
is a minus sign. -/
def signedBy (before : Text) (n : Nat) : Int :=
  if lastInk before = some '-' then -n else n

/-- The dice of which the letter stands between two parts of a text. -/
def diceAt (before after : Text) : Term :=
  let own := ownCount before
  let magnitude := if own = [] then 1 else Decimal.value own
  .dice (signedBy (before.take (before.length - own.length)) magnitude)
    (Decimal.value (after.takeWhile Char.isDigit))

/-- The term at the position between two parts of a text: dice at the letter of a die, a constant at the
start of a run of digits with no such letter next to it. -/
def termAt (before : Text) : Text → Option Term
  | [] => none
  | c :: after =>
    if isDieMark c then some (diceAt before after)
    else if c.isDigit && !endsWith Char.isDigit before && !endsWith isDieMark before &&
        !startsWith isDieMark (after.dropWhile Char.isDigit) then
      some (.constant (signedBy before (Decimal.value (c :: after.takeWhile Char.isDigit))))
    else none

/-- The terms of a text that stands behind another one, from left to right. -/
def termsFrom (before after : Text) : List Term :=
  (List.range after.length).filterMap fun i => termAt (before ++ after.take i) (after.drop i)

/-- The terms of a text, position by position from left to right. -/
def termsIn (text : Text) : List Term :=
  (List.range text.length).filterMap fun i => termAt (text.take i) (text.drop i)

/-- The terms of a text are those of the text behind nothing. -/
theorem termsIn_eq_termsFrom (text : Text) : termsIn text = termsFrom [] text := rfl

section Ends

variable {p : Char → Bool}

/-- An empty text ends in no class. -/
@[simp]
theorem endsWith_nil : endsWith p [] = false := rfl

/-- A text ends in the class of its last character. -/
@[simp]
theorem endsWith_concat (s : Text) (c : Char) : endsWith p (s ++ [c]) = p c := by
  simp [endsWith]

/-- A text ends as its last part does. -/
theorem endsWith_append {run : Text} (hne : run ≠ []) (s : Text) :
    endsWith p (s ++ run) = endsWith p run := by
  rw [endsWith, List.reverse_append, startsWith_append (by simpa using hne), endsWith]

/-- A run ends in its own class. -/
theorem endsWith_run {q : Char → Bool} {run : Text} (hrun : run.all q = true)
    (hclass : ∀ c, q c = true → p c = false) : endsWith p run = false := by
  have hreverse : run.reverse.all q = true := by simpa using hrun
  have hend : startsWith p (run.reverse ++ []) = false :=
    startsWith_run_append hreverse hclass fun _ => rfl
  rwa [List.append_nil] at hend

/-- Blanks do not change the last character that is no blank. -/
theorem lastInk_append_blanks {blanks : Text} (h : blanks.all isBlank = true) (s : Text) :
    lastInk (s ++ blanks) = lastInk s := by
  have hnone : blanks.reverse.find? (!isBlank ·) = none := by
    simpa [List.find?_eq_none] using h
  rw [lastInk, List.reverse_append, List.find?_append, hnone]
  rfl

/-- A last character that is no blank is the last of these. -/
theorem lastInk_concat {c : Char} (h : isBlank c = false) (s : Text) :
    lastInk (s ++ [c]) = some c := by
  simp [lastInk, h]

end Ends

/-- The size of a run of digits that stands behind a text. -/
def SizeFits (before : Text) (n : Nat) : Prop :=
  if endsWith isDieMark before then 1 ≤ n ∧ n ≤ 2 ^ 32 - 1
  else n ≤ if lastInk before = some '-' then 2 ^ 31 else 2 ^ 31 - 1

/-- What dice notation asks of the position between two parts of a text. -/
structure FitsAt (before : Text) (c : Char) (after : Text) : Prop where
  known : isBlank c = true ∨ isSignMark c = true ∨ c.isDigit = true ∨ isDieMark c = true
  mark : isDieMark c = true → startsWith Char.isDigit after = true
  sign : isSignMark c = true →
    startsWith opensNumber (after.dropWhile isBlank) = true
  size : c.isDigit = true → endsWith Char.isDigit before = false →
    SizeFits before (Decimal.value (c :: after.takeWhile Char.isDigit))

/-- What dice notation asks of a text that stands behind another one. -/
def FitsFrom : Text → Text → Prop
  | _, [] => True
  | before, c :: after => FitsAt before c after ∧ FitsFrom (before ++ [c]) after

/-- A text behind another one fits just if each of its positions does. -/
theorem fitsFrom_iff (before after : Text) :
    FitsFrom before after ↔ ∀ u c v, after = u ++ c :: v → FitsAt (before ++ u) c v := by
  induction after generalizing before with
  | nil => simp [FitsFrom]
  | cons d after ih =>
    rw [FitsFrom, ih]
    constructor
    · rintro ⟨hfirst, hrest⟩ u c v huv
      cases u with
      | nil =>
        obtain ⟨rfl, rfl⟩ := List.cons.inj huv
        simpa using hfirst
      | cons e u =>
        obtain ⟨rfl, rfl⟩ := List.cons.inj huv
        simpa using hrest u c v rfl
    · intro h
      refine ⟨by simpa using h [] d after rfl, fun u c v huv => ?_⟩
      simpa using h (d :: u) c v (by rw [huv, List.cons_append])

/-- A text is one of dice notation exactly if every position is as it should be. -/
theorem isWritten_iff_fitsFrom (text : Text) : IsWritten text ↔ FitsFrom [] text := by
  rw [fitsFrom_iff]
  constructor
  · intro h u c v huv
    refine ⟨h.alphabet c (by simp [huv]), h.marks _ _ _ huv, h.signs _ _ _ huv, fun hc hu => ?_⟩
    have hsplit : text = u ++ (c :: v).takeWhile Char.isDigit ++ (c :: v).dropWhile Char.isDigit := by
      rw [huv, List.append_assoc, List.takeWhile_append_dropWhile]
    rw [List.nil_append, ← List.takeWhile_cons_of_pos hc]
    have hrun : IsRun u ((c :: v).takeWhile Char.isDigit) ((c :: v).dropWhile Char.isDigit) :=
      ⟨takeWhile_ne_nil_of_startsWith hc, List.all_takeWhile, hu, startsWith_dropWhile _ _⟩
    unfold SizeFits
    split
    · exact h.sides _ _ _ hsplit hrun ‹_›
    · exact h.numbers _ _ _ hsplit hrun (by simp_all)
  · intro h
    have hsize : ∀ before run after, text = before ++ run ++ after → IsRun before run after →
        SizeFits before (Decimal.value run) := by
      intro before run after htext hrun
      obtain ⟨c, rest, rfl⟩ := List.exists_cons_of_ne_nil hrun.nonempty
      have hall : c.isDigit = true ∧ rest.all Char.isDigit = true := by
        simpa using hrun.all_digits
      have hfits := (h before c (rest ++ after) (by simp [htext])).size hall.1 hrun.start
      rwa [takeWhile_run hall.2 hrun.stop] at hfits
    refine ⟨fun c hc => ?_, fun u c v huv => (h u c v huv).mark,
      fun u c v huv => (h u c v huv).sign, fun u run v huv hrun hmark => ?_,
      fun u run v huv hrun hmark => ?_⟩
    · obtain ⟨u, v, huv⟩ := List.append_of_mem hc
      exact (h u c v huv).known
    · simpa [SizeFits, hmark] using hsize u run v huv hrun
    · simpa [SizeFits, hmark] using hsize u run v huv hrun

/-- The terms of a text start with the term at its first position. -/
theorem termsFrom_cons (before : Text) (c : Char) (after : Text) :
    termsFrom before (c :: after) =
      (termAt before (c :: after)).toList ++ termsFrom (before ++ [c]) after := by
  simp only [termsFrom, List.length_cons, List.range_succ_eq_map, List.filterMap_cons,
    List.filterMap_map]
  have hrest : (fun i => termAt (before ++ (c :: after).take i) ((c :: after).drop i)) ∘ Nat.succ =
      fun i => termAt (before ++ [c] ++ after.take i) (after.drop i) := by
    funext i
    simp
  rw [hrest]
  cases hfirst : termAt (before ++ (c :: after).take 0) ((c :: after).drop 0) with
  | none => simp_all
  | some term => simp_all

/-- A part of a text that is as it should be and writes no term. -/
structure Passes (before part rest : Text) : Prop where
  fits : FitsFrom before (part ++ rest) ↔ FitsFrom (before ++ part) rest
  terms : termsFrom before (part ++ rest) = termsFrom (before ++ part) rest

namespace Passes

variable {before rest : Text}

/-- An empty part passes. -/
theorem nil : Passes before [] rest :=
  ⟨by simp, by simp⟩

/-- Two parts that pass one behind the other pass together. -/
theorem append {first second : Text} (h : Passes before first (second ++ rest))
    (h' : Passes (before ++ first) second rest) : Passes before (first ++ second) rest where
  fits := by rw [List.append_assoc, h.fits, h'.fits, List.append_assoc]
  terms := by rw [List.append_assoc, h.terms, h'.terms, List.append_assoc]

/-- A position that fits and writes no term passes. -/
theorem singleton {c : Char} (hfits : FitsAt before c rest)
    (hterm : termAt before (c :: rest) = none) : Passes before [c] rest where
  fits := by simp [FitsFrom, hfits]
  terms := by simp [termsFrom_cons, hterm]

/-- Blanks pass anywhere. -/
theorem blanks {blanks : Text} (h : blanks.all isBlank = true) : Passes before blanks rest := by
  induction blanks generalizing before with
  | nil => exact nil
  | cons c blanks ih =>
    simp only [List.all_cons, Bool.and_eq_true] at h
    have honly := isBlank_only h.1
    have hfits : FitsAt before c (blanks ++ rest) :=
      ⟨.inl h.1, by simp [honly], by simp [honly], by simp [honly]⟩
    exact append (singleton hfits (by simp [termAt, honly])) (ih h.2)

/-- Digits pass behind other digits. -/
theorem digits {digits : Text} (hbefore : endsWith Char.isDigit before = true)
    (h : digits.all Char.isDigit = true) : Passes before digits rest := by
  induction digits generalizing before with
  | nil => exact nil
  | cons c digits ih =>
    simp only [List.all_cons, Bool.and_eq_true] at h
    have honly := isDigit_only h.1
    have hfits : FitsAt before c (digits ++ rest) :=
      ⟨.inr (.inr (.inl h.1)), by simp [honly], by simp [honly], by simp [hbefore]⟩
    have hnext : endsWith Char.isDigit (before ++ [c]) = true := by simp [h.1]
    exact append (singleton hfits (by simp [termAt, honly, hbefore])) (ih hnext h.2)

/-- A sign passes if a digit or the letter of a die follows behind blanks. -/
theorem sign {c : Char} (hc : isSignMark c = true)
    (hrest : startsWith opensNumber (rest.dropWhile isBlank) = true) :
    Passes before [c] rest := by
  have honly := isSignMark_only hc
  have hfits : FitsAt before c rest :=
    ⟨.inr (.inl hc), by simp [honly], fun _ => hrest, by simp [honly]⟩
  exact singleton hfits (by simp [termAt, honly])

end Passes

section Steps

variable {before run rest : Text}

/-- A run of digits asks for its size, and for nothing else. -/
theorem fitsFrom_run (hne : run ≠ []) (hrun : run.all Char.isDigit = true)
    (hbefore : endsWith Char.isDigit before = false) (hrest : startsWith Char.isDigit rest = false) :
    FitsFrom before (run ++ rest) ↔
      SizeFits before (Decimal.value run) ∧ FitsFrom (before ++ run) rest := by
  obtain ⟨c, digits, rfl⟩ := List.exists_cons_of_ne_nil hne
  simp only [List.all_cons, Bool.and_eq_true] at hrun
  have honly := isDigit_only hrun.1
  have hpasses : Passes (before ++ [c]) digits rest := .digits (by simp [hrun.1]) hrun.2
  have hfits : FitsAt before c (digits ++ rest) ↔ SizeFits before (Decimal.value (c :: digits)) := by
    constructor
    · intro h
      have hsize := h.size hrun.1 hbefore
      rwa [takeWhile_run hrun.2 hrest] at hsize
    · intro h
      refine ⟨.inr (.inr (.inl hrun.1)), by simp [honly], by simp [honly], fun _ _ => ?_⟩
      rwa [takeWhile_run hrun.2 hrest]
  rw [List.cons_append, FitsFrom, hfits, hpasses.fits, List.append_assoc, List.singleton_append]

/-- A run of digits writes a constant unless the letter of a die is next to it. -/
theorem termsFrom_run (hne : run ≠ []) (hrun : run.all Char.isDigit = true)
    (hbefore : endsWith Char.isDigit before = false) (hrest : startsWith Char.isDigit rest = false) :
    termsFrom before (run ++ rest) =
      (if !endsWith isDieMark before && !startsWith isDieMark rest then
        [.constant (signedBy before (Decimal.value run))] else []) ++
      termsFrom (before ++ run) rest := by
  obtain ⟨c, digits, rfl⟩ := List.exists_cons_of_ne_nil hne
  simp only [List.all_cons, Bool.and_eq_true] at hrun
  have honly := isDigit_only hrun.1
  have hpasses : Passes (before ++ [c]) digits rest := .digits (by simp [hrun.1]) hrun.2
  rw [List.cons_append, termsFrom_cons, hpasses.terms, List.append_assoc, List.singleton_append,
    termAt, takeWhile_run hrun.2 hrest, dropWhile_run hrun.2 hrest]
  simp only [honly, hrun.1, hbefore, Bool.false_eq_true, if_false, Bool.not_false, Bool.true_and]
  split <;> rfl

/-- The letter of a die asks for a digit behind it. -/
theorem fitsFrom_mark {mark : Char} (h : isDieMark mark = true) :
    FitsFrom before (mark :: rest) ↔
      startsWith Char.isDigit rest = true ∧ FitsFrom (before ++ [mark]) rest := by
  have honly := isDieMark_only h
  have hfits : FitsAt before mark rest ↔ startsWith Char.isDigit rest = true :=
    ⟨fun hat => hat.mark h, fun hdigit =>
      ⟨.inr (.inr (.inr h)), fun _ => hdigit, by simp [honly], by simp [honly]⟩⟩
  rw [FitsFrom, hfits]

/-- The letter of a die writes dice. -/
theorem termsFrom_mark {mark : Char} (h : isDieMark mark = true) :
    termsFrom before (mark :: rest) = diceAt before rest :: termsFrom (before ++ [mark]) rest := by
  simp [termsFrom_cons, termAt, h]

/-- A sign asks for a digit or the letter of a die behind blanks. -/
theorem fitsFrom_sign {c : Char} (hc : isSignMark c = true) (h : FitsFrom before (c :: rest)) :
    startsWith opensNumber (rest.dropWhile isBlank) = true :=
  h.1.sign hc

end Steps

end DiceSum
