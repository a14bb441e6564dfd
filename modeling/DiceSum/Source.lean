import DiceSum.Failure
import DiceSum.Rolling
import DiceSum.Source.Seed
import DiceSum.Source.Twister

/-!
# Where random faces come from

A source answers one question: the face that dice with a given number of sides show. Answering may
fail, and in any case it leaves the source in a new state. What rolls dice is given the answering
function and never looks into the source.

There are three sources. A script gives out a list of numbers in turn, each reduced to the range of
faces. A seeded generator gives the same faces whenever it starts from the same seed. A system
generator differs only in that its seed is drawn from the machine.
-/

namespace DiceSum

/-- A computation that draws from a source with states `σ` and may fail; what was drawn before a
failure stays drawn. -/
abbrev Drawing (σ : Type) := ExceptT Failure (StateM σ)

/-- A list of numbers that are given out in turn, from the start again after the last. -/
structure Script where
  numbers : Array Nat
  /-- How many numbers were given out. -/
  given : Nat

/-- The next face of a script. A number cannot be reduced to no sides; it is given out all the same. -/
def Script.draw (sides : Int) (script : Script) : Except Failure Int × Script :=
  let number := script.numbers.getD (script.given % script.numbers.size) 0
  (if sides = 0 then .error .noRemainder else .ok (1 + Int.fmod number sides),
    { script with given := script.given + 1 })

/-- The next face of a generator, if there are any faces. -/
def Twister.draw (sides : Int) (twister : Twister) : Except Failure Int × Twister :=
  if 0 < sides then
    let (n, after) := (below sides.toNat).run twister
    (.ok (1 + n), after)
  else (.error (.noFaces sides), twister)

/-- A source of random faces. -/
inductive Source where
  | script (numbers : Script)
  | seeded (twister : Twister)
  | system (twister : Twister)

namespace Source

/-- The source for a seed; without a seed it is the system's. A blank seed has no source. -/
def ofSeed (system : Source) : Seed → Except Failure Source
  | .absent => .ok system
  | .number n => .ok (seeded (Twister.ofSeed n))
  | .blank => .error .blankSeed

/-- The next face of a source, for dice with so many sides. -/
def draw (sides : Int) : Drawing Source Int :=
  ExceptT.mk fun source =>
    match source with
    | .script numbers =>
      let (face, after) := numbers.draw sides
      (face, .script after)
    | .seeded twister =>
      let (face, after) := twister.draw sides
      (face, .seeded after)
    | .system twister =>
      let (face, after) := twister.draw sides
      (face, .system after)

/-- The name by which reports know a source; a script has none. -/
def name : Source → Option Text
  | script _ => none
  | seeded _ => some "random.Random".toList
  | system _ => some "random.SystemRandom".toList

end Source

/-- A source together with the questions that it was asked. -/
structure Recorded (σ : Type) where
  source : σ
  /-- The numbers of sides asked for, the latest first. -/
  asked : List Int

/-- Draws, and notes the question. -/
def recording {σ : Type} (draw : Int → Drawing σ Int) (sides : Int) : Drawing (Recorded σ) Int :=
  ExceptT.mk fun recorded =>
    let (face, after) := (draw sides).run.run recorded.source
    (face, { source := after, asked := sides :: recorded.asked })

end DiceSum
