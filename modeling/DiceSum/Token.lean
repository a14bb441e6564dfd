import DiceSum.Text

/-!
# Tokens of dice notation

A text is cut into tokens from left to right. At each position the first of four kinds that fits is
taken, and as much of it as fits: a gap of blanks, dice, a constant, or a run of characters that are
no blanks and that nothing else explains. Dice and constants may carry a sign, and blanks may follow
the sign but stand nowhere else inside a token.

The main statements are `text_next`, no character of a text is lost or added by cutting a token off,
and `text_next_ne_nil`, a token is never empty, so cutting ends.
-/

namespace DiceSum

/-- The sign of a dice token or of a constant. -/
inductive Sign where
  | plus
  | minus
deriving DecidableEq

namespace Sign

/-- The character of a sign. -/
def char : Sign → Char
  | plus => '+'
  | minus => '-'

/-- The text of a sign that may be missing. -/
def text : Option Sign → Text
  | none => []
  | some sign => [sign.char]

/-- A magnitude with a sign; a missing sign is positive. -/
def apply : Option Sign → Int → Int
  | some minus, n => -n
  | _, n => n

/-- The sign at the start of a text, and the rest of the text. -/
def cut : Text → Option Sign × Text
  | '+' :: rest => (some plus, rest)
  | '-' :: rest => (some minus, rest)
  | text => (none, text)

/-- The sign at the start of a text and the rest behind it make up the text. -/
theorem text_cut (s : Text) : text (cut s).1 ++ (cut s).2 = s := by
  unfold cut
  split <;> rfl

end Sign

/-- One piece of a text, with all characters it covers. -/
inductive Token where
  /-- Blanks between tokens. -/
  | gap (blanks : Text)
  /-- Dice, as in `2d6`: a sign, blanks after it, the digits of the count, the die's letter, and the
  digits of the sides. -/
  | dice (sign : Option Sign) (blanks count : Text) (mark : Char) (sides : Text)
  /-- A constant: a sign, blanks after it, and digits. -/
  | constant (sign : Option Sign) (blanks digits : Text)
  /-- A run that is neither. -/
  | unknown (run : Text)
deriving DecidableEq

namespace Token

/-- The characters that a token covers. -/
def text : Token → Text
  | gap blanks => blanks
  | dice sign blanks count mark sides => Sign.text sign ++ blanks ++ count ++ mark :: sides
  | constant sign blanks digits => Sign.text sign ++ blanks ++ digits
  | unknown run => run

/-- A text taken apart as if it started with a number: a sign, the blanks after the sign, digits
(perhaps none), and the rest. -/
structure Head where
  sign : Option Sign
  blanks : Text
  digits : Text
  rest : Text

namespace Head

/-- Cuts off a sign, the blanks after it, and the digits after those. -/
def of (s : Text) : Head where
  sign := (Sign.cut s).1
  blanks := (Sign.cut s).2.takeWhile isBlank
  digits := ((Sign.cut s).2.dropWhile isBlank).takeWhile Char.isDigit
  rest := ((Sign.cut s).2.dropWhile isBlank).dropWhile Char.isDigit

/-- The text that was taken apart. -/
def text (head : Head) : Text :=
  Sign.text head.sign ++ head.blanks ++ head.digits ++ head.rest

/-- Sign, blanks, digits and rest make up the text that was taken apart. -/
theorem text_of (s : Text) : (of s).text = s := by
  simp only [text, of, List.append_assoc, List.takeWhile_append_dropWhile, Sign.text_cut]

/-- The dice token at the start, if a die's letter and a digit follow the number. -/
def dice? (head : Head) : Option (Token × Text) :=
  match head.rest with
  | [] => none
  | mark :: after =>
    if isDieMark mark && after.head?.any Char.isDigit then
      some (dice head.sign head.blanks head.digits mark (after.takeWhile Char.isDigit),
        after.dropWhile Char.isDigit)
    else none

/-- The constant at the start, if the number has a digit. -/
def constant? (head : Head) : Option (Token × Text) :=
  if head.digits = [] then none
  else some (constant head.sign head.blanks head.digits, head.rest)

/-- Dice and what follows them make up the text of the head, and they are not empty. -/
theorem text_of_dice? {head : Head} {p : Token × Text} (h : head.dice? = some p) :
    p.1.text ++ p.2 = head.text ∧ p.1.text ≠ [] := by
  unfold dice? at h
  split at h
  · cases h
  · rename_i mark after hrest
    split at h
    · obtain rfl := Option.some.inj h
      simp [Token.text, text, hrest]
    · cases h

/-- A constant and what follows it make up the text of the head, and it is not empty. -/
theorem text_of_constant? {head : Head} {p : Token × Text} (h : head.constant? = some p) :
    p.1.text ++ p.2 = head.text ∧ p.1.text ≠ [] := by
  unfold constant? at h
  split at h
  · cases h
  · rename_i hdigits
    obtain rfl := Option.some.inj h
    simp [Token.text, text, hdigits]

end Head

/-- Cuts off a run of characters that are no blanks. -/
def unknownRun (s : Text) : Token × Text :=
  (unknown (s.takeWhile (!isBlank ·)), s.dropWhile (!isBlank ·))

/-- Cuts the first token off a text that starts with `c`. -/
def next (c : Char) (s : Text) : Token × Text :=
  if isBlank c then
    (gap ((c :: s).takeWhile isBlank), (c :: s).dropWhile isBlank)
  else
    ((Head.of (c :: s)).dice?.or (Head.of (c :: s)).constant?).getD (unknownRun (c :: s))

/-- A run of anything and what follows it make up the text, and the run is not empty. -/
theorem text_unknownRun {c : Char} (s : Text) (h : isBlank c = false) :
    (unknownRun (c :: s)).1.text ++ (unknownRun (c :: s)).2 = c :: s ∧
      (unknownRun (c :: s)).1.text ≠ [] := by
  refine ⟨List.takeWhile_append_dropWhile, ?_⟩
  simp [unknownRun, text, List.takeWhile, h]

/-- Cutting a token off loses and adds nothing, and a token is never empty. -/
theorem text_next_and_ne_nil (c : Char) (s : Text) :
    (next c s).1.text ++ (next c s).2 = c :: s ∧ (next c s).1.text ≠ [] := by
  unfold next
  split
  · rename_i h
    refine ⟨List.takeWhile_append_dropWhile, ?_⟩
    simp [text, List.takeWhile, h]
  · rename_i h
    cases hd : (Head.of (c :: s)).dice? with
    | some p => simpa [Head.text_of] using Head.text_of_dice? hd
    | none =>
      cases hc : (Head.of (c :: s)).constant? with
      | some p => simpa [Head.text_of] using Head.text_of_constant? hc
      | none => exact text_unknownRun s (by simpa using h)

/-- Cutting a token off loses and adds nothing. -/
theorem text_next (c : Char) (s : Text) : (next c s).1.text ++ (next c s).2 = c :: s :=
  (text_next_and_ne_nil c s).1

/-- A token is never empty. -/
theorem text_next_ne_nil (c : Char) (s : Text) : (next c s).1.text ≠ [] :=
  (text_next_and_ne_nil c s).2

/-- What a token leaves is shorter than the text it was cut off. -/
theorem length_next_lt (c : Char) (s : Text) : (next c s).2.length < (c :: s).length := by
  have h := congrArg List.length (text_next c s)
  have hpos := List.length_pos_iff.mpr (text_next_ne_nil c s)
  simp only [List.length_append] at h
  omega

/-- All tokens of a text, from left to right. -/
def scan : Text → List Token
  | [] => []
  | c :: s => (next c s).1 :: scan (next c s).2
termination_by s => s.length
decreasing_by exact length_next_lt c s

/-- An empty text has no tokens. -/
@[simp]
theorem scan_nil : scan [] = [] := by
  rw [scan]

/-- A scan takes the next token and goes on behind it. -/
theorem scan_cons (c : Char) (s : Text) :
    scan (c :: s) = (next c s).1 :: scan (next c s).2 := by
  rw [scan]

/-- The tokens of a text cover it without gaps or overlaps. -/
theorem flatMap_text_scan (s : Text) : (scan s).flatMap text = s := by
  fun_induction scan s with
  | case1 => rfl
  | case2 c s ih => rw [List.flatMap_cons, ih, text_next]

end Token

end DiceSum
