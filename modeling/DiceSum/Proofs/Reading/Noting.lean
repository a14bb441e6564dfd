import DiceSum.Event
import DiceSum.Proofs.Reading.Bounds

/-!
# Reading with a log at hand

The event of a reading is a function of the text and the outcome (`Event.ofReading`). Here the reading is
written out with a log at hand: each check that fails notes its rejection and stops the reading there and
then, and a reading that gets to the end of the text notes how many terms it has read. Whichever way it
ends, its outcome is that of the reading without a log, and the log grows by just that one event
(`run_read`).

What a token goes through is a row of checks, and a fault can as well be noted behind the row as behind the
check that finds it (`ofCheck_bind`).
-/

namespace DiceSum

/-- A reading with a log at hand. The latest event stands last. -/
abbrev Noting := ExceptT Rejection (StateM (List Event))

namespace Noting

variable {α β : Type}

/-- Notes an event. -/
def note (event : Event) : Noting Unit :=
  ExceptT.mk fun log => (.ok (), log ++ [event])

/-- Notes a rejection, and stops the reading with it. -/
def reject (text : Text) (rejection : Rejection) : Noting α := do
  note (.rejected text rejection)
  throw rejection

section Checks

variable (text token : Text) (position : Nat)

/-- The value of a run of digits, unless it has too many. -/
def magnitude (field : Field) (digits : Text) : Noting Nat :=
  if maxSignificantDigits < (significant digits).length then
    reject text { token, position, fault := .tooLong field (significant digits).length }
  else return Decimal.value (significant digits)

/-- A number that lies between two bounds. -/
def within (field : Field) (low high value : Int) : Noting Int :=
  if low ≤ value ∧ value ≤ high then return value
  else reject text { token, position, fault := .outside field value }

/-- A number of sides, which is positive. -/
def sidesWithin (sides : Nat) : Noting Int :=
  if sides = 0 then reject text { token, position, fault := .noSides }
  else within text token position .sides 1 greatestSides sides

/-- The number of dice without its sign; one die if no digits are written. -/
def countMagnitude (digits : Text) : Noting Nat :=
  if digits = [] then return 1 else magnitude text token position .count digits

/-- Dice with this sign and these digits. -/
def readDice (sign : Option Sign) (count sides : Text) : Noting Term := do
  let dice ← countMagnitude text token position count
  let faces ← magnitude text token position .sides sides
  let signed ← within text token position .count leastSigned greatestSigned (Sign.apply sign dice)
  let checked ← sidesWithin text token position faces
  return .dice signed checked

/-- A constant with this sign and these digits. -/
def readConstant (sign : Option Sign) (digits : Text) : Noting Term := do
  let number ← magnitude text token position .constant digits
  let signed ←
    within text token position .constant leastSigned greatestSigned (Sign.apply sign number)
  return .constant signed

end Checks

/-- The terms of one token. -/
def terms (text : Text) (position : Nat) (token : Token) : Noting (List Term) :=
  match token with
  | .gap _ => return []
  | .dice sign _ count _ sides => return [← readDice text token.text position sign count sides]
  | .constant sign _ digits => return [← readConstant text token.text position sign digits]
  | .unknown _ => reject text { token := token.text, position, fault := .unknown }

/-- Reads tokens of a text that start at a position. -/
def readFrom (text : Text) (position : Nat) : List Token → Noting (List Term)
  | [] => return []
  | token :: rest => do
    let first ← terms text position token
    let more ← readFrom text (position + token.text.length) rest
    return first ++ more

/-- Reads a text. -/
def read (text : Text) : Noting (List Term) := do
  let terms ← readFrom text 0 (Token.scan text)
  note (.parsed text terms.length)
  return terms

section Checks

variable (text token : Text) (position : Nat)

/-- A check without a log, whose fault is noted when all of it is done. -/
def ofCheck : Except Fault α → Noting α
  | .ok result => return result
  | .error fault => reject text { token, position, fault }

/-- It makes no difference whether a fault is noted after the first of two checks or after both. -/
theorem ofCheck_bind (x : Except Fault α) (f : α → Except Fault β) :
    ofCheck text token position (x >>= f) =
      ofCheck text token position x >>= fun result => ofCheck text token position (f result) := by
  cases x with
  | ok result => rfl
  | error fault => rfl

/-- Converting a number is the conversion without a log, with its fault noted. -/
theorem magnitude_eq_ofCheck (field : Field) (digits : Text) :
    magnitude text token position field digits =
      ofCheck text token position (DiceSum.magnitude field digits) := by
  unfold magnitude DiceSum.magnitude
  split <;> rfl

/-- A range check is the one without a log, with its fault noted. -/
theorem within_eq_ofCheck (field : Field) (low high value : Int) :
    within text token position field low high value =
      ofCheck text token position (DiceSum.within field low high value) := by
  unfold within DiceSum.within
  split <;> rfl

/-- Checking a number of sides is the check without a log, with its fault noted. -/
theorem sidesWithin_eq_ofCheck (sides : Nat) :
    sidesWithin text token position sides =
      ofCheck text token position (DiceSum.sidesWithin sides) := by
  rw [sidesWithin, DiceSum.sidesWithin, within_eq_ofCheck]
  split <;> rfl

/-- Converting a count is the conversion without a log, with its fault noted. -/
theorem countMagnitude_eq_ofCheck (digits : Text) :
    countMagnitude text token position digits =
      ofCheck text token position (DiceSum.countMagnitude DiceSum.magnitude digits) := by
  rw [countMagnitude, DiceSum.countMagnitude, magnitude_eq_ofCheck]
  split <;> rfl

/-- Reading dice goes through four checks, and notes the fault of the row. -/
theorem readDice_eq_ofCheck (sign : Option Sign) (count sides : Text) :
    readDice text token position sign count sides =
      ofCheck text token position (DiceSum.readDice DiceSum.magnitude sign count sides) := by
  rw [DiceSum.readDice]
  simp only [ofCheck_bind, ← countMagnitude_eq_ofCheck, ← magnitude_eq_ofCheck, ← within_eq_ofCheck,
    ← sidesWithin_eq_ofCheck]
  rfl

/-- Reading a constant goes through two checks, and notes the fault of the row. -/
theorem readConstant_eq_ofCheck (sign : Option Sign) (digits : Text) :
    readConstant text token position sign digits =
      ofCheck text token position (DiceSum.readConstant DiceSum.magnitude sign digits) := by
  rw [DiceSum.readConstant]
  simp only [ofCheck_bind, ← magnitude_eq_ofCheck, ← within_eq_ofCheck]
  rfl

/-- Reading a token notes the fault because of which it writes no term. -/
theorem terms_eq_ofCheck (token : Token) :
    terms text position token =
      ofCheck text token.text position (token.terms DiceSum.magnitude) := by
  cases token with
  | gap blanks => rfl
  | dice sign blanks count mark sides =>
    rw [terms, readDice_eq_ofCheck, Token.terms]
    cases DiceSum.readDice DiceSum.magnitude sign count sides <;> rfl
  | constant sign blanks digits =>
    rw [terms, readConstant_eq_ofCheck, Token.terms]
    cases DiceSum.readConstant DiceSum.magnitude sign digits <;> rfl
  | unknown run => rfl

end Checks

variable (text : Text)

/-- Tokens are read with the outcome that they have without a log, and only a rejection is noted. -/
theorem run_readFrom (position : Nat) (tokens : List Token) (log : List Event) :
    (readFrom text position tokens).run.run log =
      match DiceSum.readFrom DiceSum.magnitude position tokens with
      | .ok terms => (.ok terms, log)
      | .error rejection => (.error rejection, log ++ [.rejected text rejection]) := by
  induction tokens generalizing position with
  | nil => rfl
  | cons token rest ih =>
    rw [readFrom, terms_eq_ofCheck, DiceSum.readFrom]
    cases token.terms DiceSum.magnitude with
    | error fault => rfl
    | ok first =>
      change (readFrom text (position + token.text.length) rest >>= _).run.run log = _
      rw [ExceptT.run_bind, StateT.run_bind, ih]
      cases DiceSum.readFrom DiceSum.magnitude (position + token.text.length) rest <;> rfl

/-- A text is read with the outcome that it has without a log, and the log grows by one event, which is the
event of that outcome. -/
theorem run_read (log : List Event) :
    (read text).run.run log =
      (DiceSum.read text, log ++ [Event.ofReading text (DiceSum.read text)]) := by
  rw [read, ExceptT.run_bind, StateT.run_bind, run_readFrom, DiceSum.read]
  cases DiceSum.readFrom DiceSum.magnitude 0 (Token.scan text) <;> rfl

end Noting

end DiceSum
