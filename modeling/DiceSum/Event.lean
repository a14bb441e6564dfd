import DiceSum.Refusal
import DiceSum.Rendering
import DiceSum.Text.Quoted

/-!
# What is logged

An event records a step on the way to an answer. What happens is data: the level of an event, the part
of the program that it comes from and its wording are functions of it. Reading a text leaves exactly
one event, whatever the outcome, so the events of a request follow from its text and its outcome.
-/

namespace DiceSum

/-- A step that is logged. -/
inductive Event where
  /-- A command starts to roll a text. -/
  | rolling (text : Text)
  /-- A text was read, with so many terms. -/
  | parsed (text : Text) (terms : Nat)
  /-- A text was rejected. -/
  | rejected (text : Text) (rejection : Rejection)
  /-- A sum was rolled, with this total. -/
  | rolled (terms : List Term) (total : Int)
  /-- A service refused a text. -/
  | declined (text : Text) (refusal : Refusal)
deriving DecidableEq

/-- How much an event matters: steps of a computation less than answers. -/
inductive Level where
  | debug
  | info
deriving DecidableEq

/-- The name of a level. -/
def Level.name : Level → Text
  | debug => "DEBUG".toList
  | info => "INFO".toList

/-- The weight of a level, on the scale of thresholds. -/
def Level.weight : Level → Nat
  | debug => 10
  | info => 20

/-- The words for a rejection. The token is quoted; a number that is too long is not shown. -/
def Rejection.report (rejection : Rejection) (text : Text) : Text :=
  "Rejecting ".toList ++
    match rejection.fault with
    | .tooLong field digits =>
      Decimal.ofNat digits ++ "-digit ".toList ++ field.name ++ " in token at ".toList ++
        Decimal.ofNat rejection.position
    | .outside field value =>
      field.name ++ ' ' :: Decimal.ofInt value ++ " in ".toList ++ quoted rejection.token
    | .noSides => "zero-sided die ".toList ++ quoted rejection.token
    | .unknown =>
      "token ".toList ++ quoted rejection.token ++ " at ".toList ++
        Decimal.ofNat rejection.position ++ " in ".toList ++ quoted text

namespace Event

/-- The event that reading a text leaves. -/
def ofReading (text : Text) : Except Rejection (List Term) → Event
  | .ok terms => parsed text terms.length
  | .error rejection => rejected text rejection

/-- The level of an event. -/
def level : Event → Level
  | rolling _ | parsed _ _ | rejected _ _ => .debug
  | rolled _ _ | declined _ _ => .info

/-- The part of the program that an event comes from. -/
def origin : Event → Text
  | rolling _ => "dice_notation.cli".toList
  | parsed _ _ | rejected _ _ => "dice_notation.parser".toList
  | rolled _ _ => "dice_notation.dice".toList
  | declined _ _ => "dice_notation.server".toList

/-- The words for an event. The message of a refusal stands as it is. -/
def message : Event → Text
  | rolling text => "Rolling ".toList ++ quoted text
  | parsed text terms =>
    "Parsed ".toList ++ Decimal.ofNat terms ++ " term(s) from ".toList ++ quoted text
  | rejected text rejection => rejection.report text
  | rolled terms total => "Rolled ".toList ++ render terms ++ " => ".toList ++ Decimal.ofInt total
  | declined text refusal =>
    "Rejected roll request ".toList ++ quoted text ++ ": ".toList ++ refusal.message

/-- An event as a line of a log, without the line end. -/
def record (event : Event) : Text :=
  event.level.name ++ ' ' :: event.origin ++ ": ".toList ++ event.message

end Event

end DiceSum
