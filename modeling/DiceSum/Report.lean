import DiceSum.Event
import DiceSum.Mean
import DiceSum.Reading
import DiceSum.Source

/-!
# Answers to requests

A request is a text to roll and the wish to know the mean as well. Its answer is a report of the roll:
expression, total and explanation all follow from the rolled terms, and so does what the report says of
every term on its own. A text that is refused is refused before anything is drawn.

A service answers in the same way, but hands out the message of a refusal in place of the refusal. The
events of a request follow from its text and its outcome.
-/

namespace DiceSum

/-- The answer to a request. -/
structure Report where
  input : Text
  rolls : List Rolled
  /-- The mean, if it was asked for. -/
  mean : Option Mean

/-- What a report says of one rolled term. -/
inductive Entry where
  | dice (count sides : Int) (rolls : List Int) (subtotal : Int)
  | constant (value subtotal : Int)
deriving DecidableEq

/-- The entry of a rolled term. A constant is entered as its term has it. -/
def Rolled.entry (rolled : Rolled) : Entry :=
  match rolled.term with
  | .dice count sides => .dice count sides rolled.values rolled.subtotal
  | .constant value => .constant value rolled.subtotal

namespace Report

/-- The entries of the terms, in order. -/
def entries (report : Report) : List Entry :=
  report.rolls.map Rolled.entry

/-- The terms that were rolled. -/
def terms (report : Report) : List Term :=
  report.rolls.map Rolled.term

/-- The written form of the terms. -/
def expression (report : Report) : Text :=
  render report.terms

/-- The total of the roll. -/
def total (report : Report) : Int :=
  DiceSum.total report.rolls

/-- The written form of the roll. -/
def explanation (report : Report) : Text :=
  explain report.rolls

end Report

variable {σ : Type}

/-- The mean of terms, if it is asked for. -/
def meanIf (wanted : Bool) (terms : List Term) : Except Failure (Option Mean) :=
  if wanted then (mean terms).map some else .ok none

/-- Answers a request. -/
def answer (draw : Int → Drawing σ Int) (text : Text) (withMean : Bool) : Drawing σ Report :=
  match readSome text with
  | .error refusal => throw (.refused refusal)
  | .ok terms => do
    let rolls ← roll draw terms
    let mean ← ExceptT.mk (pure (meanIf withMean terms))
    return { input := text, rolls, mean }

/-- Answers a request for a service. -/
def serve (draw : Int → Drawing σ Int) (text : Text) (withMean : Bool) : Drawing σ Report :=
  (answer draw text withMean).adapt Failure.flatten

/-- The events of a request with this outcome. -/
def answerEvents (text : Text) (outcome : Except Failure Report) : List Event :=
  Event.ofReading text (read text) ::
    match outcome with
    | .ok report => [.rolled report.terms report.total]
    | .error _ => []

/-- The events of a request to a service with this outcome. -/
def serveEvents (text : Text) (outcome : Except Failure Report) : List Event :=
  answerEvents text outcome ++
    match readSome text with
    | .error refusal => [.declined text refusal]
    | .ok _ => []

end DiceSum
