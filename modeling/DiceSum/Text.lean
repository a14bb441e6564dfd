/-!
# Texts

A text is the list of its characters, so a position in a text counts characters. The classes of
characters that separate tokens and make up numbers in dice notation are ASCII classes: a blank or a
digit from elsewhere in Unicode is an ordinary character.
-/

namespace DiceSum

/-- A text, as the list of its characters. -/
abbrev Text := List Char

/-- The characters that may separate tokens: space, tab, line feed, vertical tab, form feed and
carriage return. -/
def isBlank (c : Char) : Bool :=
  c == ' ' || c == '\t' || c == '\n' || c == '\x0b' || c == '\x0c' || c == '\r'

/-- The letter of a die, small or capital. -/
def isDieMark (c : Char) : Bool :=
  c == 'd' || c == 'D'

/-- A blank is neither a digit nor the letter of a die. -/
theorem isBlank_disjoint {c : Char} (h : isBlank c = true) :
    c.isDigit = false ∧ isDieMark c = false := by
  simp only [isBlank, Bool.or_eq_true, beq_iff_eq] at h
  rcases h with ((((rfl | rfl) | rfl) | rfl) | rfl) | rfl <;> decide

/-- The texts of a list, one after another with a separator between neighbours. -/
def joinWith (separator : Text) : List Text → Text
  | [] => []
  | [text] => text
  | text :: rest => text ++ separator ++ joinWith separator rest

end DiceSum
