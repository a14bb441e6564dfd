import DiceSum.Text.Printable

/-!
# Quoted texts

A quoted text stands between single quotes, or between double quotes if it contains a single quote and
no double quote. Inside, the backslash and the quote in use get a backslash in front, tab, line feed and
carriage return are written as letters, and any other character that is not printable is written with
its code point in two, four or eight hexadecimal digits. The main statement is `isInline_quoted`: a
quoted text is always a single line.
-/

namespace DiceSum

/-- The hexadecimal digit for a number below sixteen, with small letters. -/
def hexDigit (n : Nat) : Char :=
  if n < 10 then Char.ofNat (48 + n) else Char.ofNat (87 + n)

/-- A number in so many hexadecimal digits; higher digits are left out. -/
def hexDigits : Nat → Nat → Text
  | 0, _ => []
  | length + 1, n => hexDigits length (n / 16) ++ [hexDigit (n % 16)]

/-- A character by its code point, in the shortest of the three forms. -/
def escapeCode (n : Nat) : Text :=
  if n < 0x100 then '\\' :: 'x' :: hexDigits 2 n
  else if n < 0x10000 then '\\' :: 'u' :: hexDigits 4 n
  else '\\' :: 'U' :: hexDigits 8 n

/-- A character as it stands between quotes. -/
def escape (quote c : Char) : Text :=
  if c = quote ∨ c = '\\' then ['\\', c]
  else if c = '\t' then ['\\', 't']
  else if c = '\n' then ['\\', 'n']
  else if c = '\r' then ['\\', 'r']
  else if isPrintable c then [c]
  else escapeCode c.toNat

/-- The quotes that a text is put between. -/
def quoteFor (text : Text) : Char :=
  if text.contains '\'' && !text.contains '"' then '"' else '\''

/-- A text between quotes. -/
def quoted (text : Text) : Text :=
  quoteFor text :: text.flatMap (escape (quoteFor text)) ++ [quoteFor text]

/-- Whether a text has neither a line feed nor a carriage return. -/
def isInline (text : Text) : Bool :=
  text.all fun c => c != '\n' && c != '\r'

/-- A text stands on one line if its first character breaks no line and the others stand on one. -/
@[simp]
theorem isInline_cons (c : Char) (text : Text) :
    isInline (c :: text) = (c != '\n' && c != '\r' && isInline text) := rfl

/-- Two texts in a row stand on one line just if both do. -/
@[simp]
theorem isInline_append (before after : Text) :
    isInline (before ++ after) = (isInline before && isInline after) :=
  List.all_append

/-- Hexadecimal digits stand on one line. -/
theorem isInline_hexDigits (length n : Nat) : isInline (hexDigits length n) = true := by
  have hdigit : ∀ k : Fin 16, isInline [hexDigit k] = true := by decide
  induction length generalizing n with
  | zero => rfl
  | succ length ih =>
    rw [hexDigits, isInline_append, ih, hdigit ⟨n % 16, Nat.mod_lt n (by decide)⟩]
    rfl

/-- Whatever a character is, its quoted form stands on one line. -/
theorem isInline_escape {quote : Char} (hquote : isInline [quote] = true) (c : Char) :
    isInline (escape quote c) = true := by
  unfold escape
  split
  · rename_i h
    rcases h with rfl | rfl
    · simpa using hquote
    · rfl
  · split
    · rfl
    · split
      · rfl
      · split
        · rfl
        · rename_i hfeed hreturn
          split
          · simp [isInline, hfeed, hreturn]
          · unfold escapeCode
            split
            · simp [isInline_hexDigits]
            · split <;> simp [isInline_hexDigits]

/-- The quote that is chosen for a text stands on one line. -/
theorem isInline_quoteFor (text : Text) : isInline [quoteFor text] = true := by
  unfold quoteFor
  split <;> rfl

/-- A quoted text is a single line. -/
theorem isInline_quoted (text : Text) : isInline (quoted text) = true := by
  have hquote := isInline_quoteFor text
  have hinside : isInline (text.flatMap (escape (quoteFor text))) = true := by
    simp only [isInline, List.all_flatMap, List.all_eq_true]
    exact fun c _ => by simpa [isInline] using isInline_escape hquote c
  rw [quoted, isInline_append, hquote, ← List.singleton_append, isInline_append, hquote, hinside]
  rfl

end DiceSum
