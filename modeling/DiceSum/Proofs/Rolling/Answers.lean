import Mathlib.Data.List.Forall2
import DiceSum.Proofs.Reading.Bounds
import DiceSum.Source

/-!
# Sources that answer

A source answers if it has a face for every number of sides that is positive. What rolls dice with sides
from such a source always succeeds, from every state (`roll_succeeds`). All sources of this library
answer, and with a face that the dice have (`answersInRange_source`); noting the questions that a source is
asked does not keep it from answering.
-/

namespace DiceSum

section Runs

variable {σ α β : Type}

/-- A computation that succeeds from every state, with results of one kind. -/
def Succeeds (x : Drawing σ α) (p : α → Prop) : Prop :=
  ∀ before, ∃ result after, x.run.run before = (.ok result, after) ∧ p result

/-- Behind a step that succeeds a run goes on from the state that the step leaves. -/
theorem run_bind_of_ok {x : Drawing σ α} {before after : σ} {result : α}
    (h : x.run.run before = (.ok result, after)) (f : α → Drawing σ β) :
    (x >>= f).run.run before = (f result).run.run after := by
  rw [ExceptT.run_bind, StateT.run_bind, h]
  rfl

/-- A run of two steps that succeeds is a run of the first that succeeds, and then one of the second. -/
theorem run_bind_eq_ok_iff {x : Drawing σ α} {f : α → Drawing σ β} {before after : σ} {result : β} :
    (x >>= f).run.run before = (.ok result, after) ↔
      ∃ first between, x.run.run before = (.ok first, between) ∧
        (f first).run.run between = (.ok result, after) := by
  constructor
  · intro h
    obtain ⟨⟨first, between⟩, hfirst⟩ : ∃ run, x.run.run before = run := ⟨_, rfl⟩
    cases first with
    | ok first => exact ⟨first, between, hfirst, (run_bind_of_ok hfirst f).symm.trans h⟩
    | error failure =>
      rw [ExceptT.run_bind, StateT.run_bind, hfirst] at h
      cases (Prod.mk.inj h).1
  · rintro ⟨first, between, hfirst, hsecond⟩
    exact (run_bind_of_ok hfirst f).trans hsecond

/-- What is made of a result changes no failure and no state. -/
theorem run_map (f : α → β) (x : Drawing σ α) (before : σ) :
    (f <$> x).run.run before = ((x.run.run before).1.map f, (x.run.run before).2) := by
  rw [ExceptT.run_map, StateT.run_map]
  rfl

/-- A result at hand is reached from every state. -/
theorem succeeds_pure {p : α → Prop} {result : α} (h : p result) :
    Succeeds (pure result : Drawing σ α) p :=
  fun before => ⟨result, before, rfl, h⟩

/-- Two steps succeed if the first does, and the second does after every result of the first. -/
theorem Succeeds.bind {x : Drawing σ α} {f : α → Drawing σ β} {p : α → Prop} {q : β → Prop}
    (hx : Succeeds x p) (hf : ∀ result, p result → Succeeds (f result) q) :
    Succeeds (x >>= f) q := by
  intro before
  obtain ⟨first, between, hfirst, hp⟩ := hx before
  obtain ⟨second, after, hsecond, hq⟩ := hf first hp between
  exact ⟨second, after, (run_bind_of_ok hfirst f).trans hsecond, hq⟩

/-- Steps in a row succeed if each of them does. -/
theorem succeeds_mapM {f : α → Drawing σ β} {p : α → β → Prop} {xs : List α}
    (h : ∀ x ∈ xs, Succeeds (f x) (p x)) : Succeeds (xs.mapM f) (List.Forall₂ p xs) := by
  induction xs with
  | nil => exact succeeds_pure .nil
  | cons x xs ih =>
    rw [List.forall_mem_cons] at h
    rw [List.mapM_cons]
    refine h.1.bind fun first hfirst => (ih h.2).bind fun rest hrest => ?_
    exact succeeds_pure (.cons hfirst hrest)

end Runs

variable {σ : Type} {draw : Int → Drawing σ Int}

/-- A source has a face for every positive number of sides. -/
def Answers (draw : Int → Drawing σ Int) : Prop :=
  ∀ sides, 0 < sides → Succeeds (draw sides) fun _ => True

/-- Whether the dice of a term have a side at least. -/
def Term.HasFaces : Term → Prop
  | .dice _ sides => 0 < sides
  | .constant _ => True

/-- The dice of a term in range have faces. -/
theorem Term.InBounds.hasFaces {term : Term} (h : term.InBounds) : term.HasFaces := by
  cases term with
  | dice count sides =>
    obtain ⟨-, hone, -⟩ := h
    exact hone
  | constant value => trivial

/-- A term with faces is rolled as that term. -/
theorem Term.roll_succeeds (h : Answers draw) {term : Term} (hfaces : term.HasFaces) :
    Succeeds (term.roll draw) fun rolled => rolled.term = term := by
  cases term with
  | constant value => exact succeeds_pure rfl
  | dice count sides =>
    have hdraws : Succeeds (drawFaces draw sides count.natAbs) fun _ => True := by
      rw [drawFaces_eq_mapM]
      have hall : ∀ asked ∈ List.replicate count.natAbs sides,
          Succeeds (draw asked) fun _ => True := by
        intro asked hasked
        rw [List.eq_of_mem_replicate hasked]
        exact h sides hfaces
      intro before
      obtain ⟨faces, after, hrun, -⟩ := succeeds_mapM hall before
      exact ⟨faces, after, hrun, trivial⟩
    exact hdraws.bind fun faces _ => succeeds_pure rfl

/-- Terms with faces are rolled as these terms. -/
theorem roll_succeeds (h : Answers draw) {terms : List Term} (hfaces : ∀ term ∈ terms, term.HasFaces) :
    Succeeds (roll draw terms) fun rolls => rolls.map Rolled.term = terms := by
  intro before
  obtain ⟨rolls, after, hrun, hrolls⟩ :=
    succeeds_mapM (fun term hterm => Term.roll_succeeds h (hfaces term hterm)) before
  refine ⟨rolls, after, hrun, ?_⟩
  clear hrun
  induction hrolls with
  | nil => rfl
  | cons hfirst _ ih =>
    rw [List.forall_mem_cons] at hfaces
    rw [List.map_cons, hfirst, ih hfaces.2]

/-- A source that notes its questions answers as the source does. -/
theorem run_recording (draw : Int → Drawing σ Int) (sides : Int) (before : Recorded σ) :
    (recording draw sides).run.run before =
      (((draw sides).run.run before.source).1,
        { source := ((draw sides).run.run before.source).2, asked := sides :: before.asked }) :=
  rfl

/-- Noting the questions does not keep a source from answering. -/
theorem Answers.recording (h : Answers draw) : Answers (recording draw) := by
  intro sides hsides before
  obtain ⟨face, after, hrun, -⟩ := h sides hsides before.source
  rw [run_recording, hrun]
  exact ⟨face, _, rfl, trivial⟩

/-- A source answers in range if it has a face of the dice for every positive number of sides. -/
def AnswersInRange (draw : Int → Drawing σ Int) : Prop :=
  ∀ sides, 0 < sides → Succeeds (draw sides) fun face => 1 ≤ face ∧ face ≤ sides

/-- What answers in range answers. -/
theorem AnswersInRange.answers (h : AnswersInRange draw) : Answers draw := by
  intro sides hsides before
  obtain ⟨face, after, hrun, -⟩ := h sides hsides before
  exact ⟨face, after, hrun, trivial⟩

/-- A random number below a positive bound is below it, after however many attempts. -/
theorem Twister.belowWithin_lt {bound : Nat} (h : 0 < bound) (attempts : Nat) (twister : Twister) :
    ((belowWithin bound attempts).run twister).1 < bound := by
  induction attempts generalizing twister with
  | zero => exact Nat.mod_lt _ h
  | succ attempts ih =>
    obtain ⟨⟨n, after⟩, hbits⟩ : ∃ run, (bits (bound.log2 + 1)).run twister = run := ⟨_, rfl⟩
    rw [belowWithin, StateT.run_bind, hbits]
    change ((if n < bound then pure n else belowWithin bound attempts).run after).1 < bound
    split
    · assumption
    · exact ih after

/-- A twisted generator shows a face of the dice. -/
theorem Twister.draw_inRange {sides : Int} (h : 0 < sides) (twister : Twister) :
    ∃ face after, twister.draw sides = (.ok face, after) ∧ 1 ≤ face ∧ face ≤ sides := by
  have hpos : 0 < sides.toNat := by omega
  have hlt : ((below sides.toNat).run twister).1 < sides.toNat :=
    belowWithin_lt hpos maxAttempts twister
  rw [Twister.draw, if_pos h]
  refine ⟨_, _, rfl, ?_, ?_⟩
  · omega
  · change 1 + (((below sides.toNat).run twister).1 : Int) ≤ sides
    omega

/-- A script shows a face of the dice: its numbers are reduced to their range. -/
theorem Script.draw_inRange {sides : Int} (h : 0 < sides) (script : Script) :
    ∃ face after, script.draw sides = (.ok face, after) ∧ 1 ≤ face ∧ face ≤ sides := by
  have hne : ¬ sides = 0 := by omega
  have hnonneg (number : Int) := Int.fmod_nonneg_of_pos number h
  have hlt (number : Int) := Int.fmod_lt_of_pos number h
  rw [Script.draw, if_neg hne]
  refine ⟨_, _, rfl, ?_, ?_⟩
  · exact Int.le_add_of_nonneg_right (hnonneg _)
  · exact Int.add_comm 1 _ ▸ hlt _

/-- Scripts and generators answer in range. -/
theorem answersInRange_source : AnswersInRange Source.draw := by
  intro sides hsides source
  cases source with
  | script numbers =>
    obtain ⟨face, after, hdraw, hrange⟩ := numbers.draw_inRange hsides
    refine ⟨face, .script after, ?_, hrange⟩
    change ((numbers.draw sides).1, Source.script (numbers.draw sides).2) = _
    rw [hdraw]
  | seeded twister =>
    obtain ⟨face, after, hdraw, hrange⟩ := twister.draw_inRange hsides
    refine ⟨face, .seeded after, ?_, hrange⟩
    change ((twister.draw sides).1, Source.seeded (twister.draw sides).2) = _
    rw [hdraw]
  | system twister =>
    obtain ⟨face, after, hdraw, hrange⟩ := twister.draw_inRange hsides
    refine ⟨face, .system after, ?_, hrange⟩
    change ((twister.draw sides).1, Source.system (twister.draw sides).2) = _
    rw [hdraw]

/-- Scripts and generators answer. -/
theorem answers_source : Answers Source.draw :=
  answersInRange_source.answers

end DiceSum
