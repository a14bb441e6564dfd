import Mathlib.Algebra.BigOperators.Group.List.Basic
import Mathlib.Data.List.Forall2
import DiceSum.Proofs.Rolling.Answers

/-!
# Rolling from a tape

A tape holds the faces that are still to be shown. It answers every question with its next face and fails
if that is no face of the die, so a roll that succeeds and leaves nothing on its tape was answered, question
by question, with just these faces. What is said about all sequences of answers is said about tapes.

The main statements are `run_roll_cons_iff`, what the roll of a first term takes off the tape, and
`run_roll_ends_iff`, which tapes are used up by a sum: those with a fitting face for each of its dice.
-/

namespace DiceSum

/-- The faces that are still to be shown, the next one first. -/
abbrev Tape := List Int

/-- Takes the next face off a tape, if a die with so many sides has it. -/
def Tape.draw (sides : Int) : StateT Tape Option Int := fun tape =>
  match tape with
  | [] => none
  | face :: rest => if 1 ≤ face ∧ face ≤ sides then some (face, rest) else none

/-- Dice with these numbers of sides, one after another, can show these faces. -/
def CanShow (sides : List Int) (faces : Tape) : Prop :=
  List.Forall₂ (fun most face => 1 ≤ face ∧ face ≤ most) sides faces

/-- No dice show no faces. -/
@[simp]
theorem canShow_nil_iff {faces : Tape} : CanShow [] faces ↔ faces = [] :=
  List.forall₂_nil_left_iff

/-- The first die shows the first face. -/
theorem canShow_cons_iff {most : Int} {sides : List Int} {faces : Tape} :
    CanShow (most :: sides) faces ↔
      ∃ face rest, (1 ≤ face ∧ face ≤ most) ∧ CanShow sides rest ∧ faces = face :: rest :=
  List.forall₂_cons_left_iff

/-- Two groups of dice show their faces one after another. -/
theorem canShow_append_iff {before after : List Int} {faces : Tape} :
    CanShow (before ++ after) faces ↔
      ∃ ahead behind, CanShow before ahead ∧ CanShow after behind ∧ faces = ahead ++ behind := by
  induction before generalizing faces with
  | nil => simp
  | cons most sides ih =>
    rw [List.cons_append, canShow_cons_iff]
    constructor
    · rintro ⟨face, rest, hface, hrest, rfl⟩
      obtain ⟨ahead, behind, hahead, hbehind, rfl⟩ := ih.mp hrest
      exact ⟨face :: ahead, behind, .cons hface hahead, hbehind, rfl⟩
    · rintro ⟨ahead, behind, hahead, hbehind, rfl⟩
      obtain ⟨face, more, hface, hmore, rfl⟩ := canShow_cons_iff.mp hahead
      exact ⟨face, more ++ behind, hface, ih.mpr ⟨more, behind, hmore, hbehind, rfl⟩, rfl⟩

/-- Equal dice can show as many faces as there are dice, each a face of such dice. -/
theorem canShow_replicate_iff {count : Nat} {most : Int} {faces : Tape} :
    CanShow (List.replicate count most) faces ↔
      faces.length = count ∧ ∀ face ∈ faces, 1 ≤ face ∧ face ≤ most := by
  induction count generalizing faces with
  | zero =>
    rw [List.replicate_zero, canShow_nil_iff, List.length_eq_zero_iff]
    exact ⟨fun h => ⟨h, by simp [h]⟩, fun h => h.1⟩
  | succ count ih =>
    rw [List.replicate_succ, canShow_cons_iff]
    constructor
    · intro ⟨face, rest, hface, hrest, hfaces⟩
      obtain ⟨hlength, hall⟩ := ih.mp hrest
      rw [hfaces, List.length_cons, hlength, List.forall_mem_cons]
      exact ⟨rfl, hface, hall⟩
    · intro ⟨hlength, hall⟩
      obtain ⟨face, rest, rfl⟩ := List.exists_cons_of_length_eq_add_one hlength
      rw [List.forall_mem_cons] at hall
      exact ⟨face, rest, hall.1, ih.mpr ⟨Nat.succ.inj hlength, hall.2⟩, rfl⟩

/-- A draw takes a fitting face off the tape. -/
theorem Tape.run_draw_iff {sides face : Int} {tape rest : Tape} :
    (Tape.draw sides).run tape = some (face, rest) ↔
      (1 ≤ face ∧ face ≤ sides) ∧ tape = face :: rest := by
  cases tape with
  | nil => simp [Tape.draw, StateT.run]
  | cons next tape =>
    simp only [Tape.draw, StateT.run, Option.ite_none_right_eq_some, Option.some.injEq,
      Prod.mk.injEq, List.cons.injEq]
    constructor
    · rintro ⟨hface, rfl, rfl⟩
      exact ⟨hface, rfl, rfl⟩
    · rintro ⟨hface, rfl, rfl⟩
      exact ⟨hface, rfl, rfl⟩

/-- Two steps on a tape: the second goes on from the tape that the first one leaves. -/
theorem run_bind_iff {α β : Type} {x : StateT Tape Option α} {f : α → StateT Tape Option β}
    {tape rest : Tape} {result : β} :
    (x >>= f).run tape = some (result, rest) ↔
      ∃ first between, x.run tape = some (first, between) ∧
        (f first).run between = some (result, rest) := by
  rw [StateT.run_bind, Option.bind_eq_bind, Option.bind_eq_some_iff]
  simp only [Prod.exists]

/-- Draws for several dice take fitting faces off the tape, one after another. -/
theorem Tape.run_mapM_draw_iff {sides : List Int} {faces tape rest : Tape} :
    (sides.mapM Tape.draw).run tape = some (faces, rest) ↔
      CanShow sides faces ∧ tape = faces ++ rest := by
  induction sides generalizing faces tape rest with
  | nil =>
    constructor
    · intro h
      obtain ⟨rfl, rfl⟩ := Prod.mk.inj (Option.some.inj h)
      exact ⟨.nil, rfl⟩
    · rintro ⟨hfaces, rfl⟩
      obtain rfl := canShow_nil_iff.mp hfaces
      rfl
  | cons most sides ih =>
    simp only [List.mapM_cons, run_bind_iff, Tape.run_draw_iff, ih, canShow_cons_iff]
    constructor
    · rintro ⟨face, _, ⟨hface, rfl⟩, more, _, ⟨hmore, rfl⟩, hdone⟩
      obtain ⟨rfl, rfl⟩ := Prod.mk.inj (Option.some.inj hdone)
      exact ⟨⟨face, more, hface, hmore, rfl⟩, rfl⟩
    · rintro ⟨⟨face, more, hface, hmore, rfl⟩, rfl⟩
      exact ⟨face, more ++ rest, ⟨hface, rfl⟩, more, rest, ⟨hmore, rfl⟩, rfl⟩

namespace Term

/-- The numbers of sides that a term asks for, die by die. -/
def asked : Term → List Int
  | dice count sides => List.replicate count.natAbs sides
  | constant _ => []

/-- The dice of a term with faces have a side at least. -/
theorem one_le_of_mem_asked {term : Term} (h : term.HasFaces) :
    ∀ most ∈ term.asked, 1 ≤ most := by
  cases term with
  | dice count sides =>
    intro most hmost
    rw [List.eq_of_mem_replicate hmost]
    exact h
  | constant value => simp [asked]

/-- A term as rolled when its dice show these faces. -/
def rolledAs (faces : Tape) : Term → Rolled
  | dice count sides =>
    { term := dice count sides, values := if count < 0 then faces.map (-·) else faces }
  | constant value => { term := constant value, values := [value] }

/-- Dice are worth the sum of their faces, with the sign of the count. -/
theorem subtotal_rolledAs_dice (count sides : Int) (faces : Tape) :
    ((dice count sides).rolledAs faces).subtotal =
      if count < 0 then -faces.sum else faces.sum := by
  rw [rolledAs, List.sum_neg]
  split <;> rfl

/-- The roll of a term takes a face for each of its dice off the tape. -/
theorem run_roll_iff {term : Term} {rolled : Rolled} {tape rest : Tape} :
    (term.roll Tape.draw).run tape = some (rolled, rest) ↔
      ∃ faces, CanShow term.asked faces ∧ tape = faces ++ rest ∧ rolled = term.rolledAs faces := by
  cases term with
  | constant value =>
    constructor
    · intro h
      obtain ⟨rfl, rfl⟩ := Prod.mk.inj (Option.some.inj h)
      exact ⟨[], .nil, rfl, rfl⟩
    · rintro ⟨faces, hfaces, rfl, rfl⟩
      obtain rfl := canShow_nil_iff.mp hfaces
      rfl
  | dice count sides =>
    simp only [Term.roll, drawFaces_eq_mapM, run_bind_iff, Tape.run_mapM_draw_iff]
    constructor
    · rintro ⟨faces, _, ⟨hfaces, rfl⟩, hdone⟩
      obtain ⟨rfl, rfl⟩ := Prod.mk.inj (Option.some.inj hdone)
      exact ⟨faces, hfaces, rfl, rfl⟩
    · rintro ⟨faces, hfaces, rfl, rfl⟩
      exact ⟨faces, rest, ⟨hfaces, rfl⟩, rfl⟩

end Term

/-- The roll of a sum takes the faces of its first term off the tape, and then those of the others. -/
theorem run_roll_cons_iff {term : Term} {terms : List Term} {rolls : List Rolled}
    {tape rest : Tape} :
    (roll Tape.draw (term :: terms)).run tape = some (rolls, rest) ↔
      ∃ faces behind more, CanShow term.asked faces ∧ tape = faces ++ behind ∧
        (roll Tape.draw terms).run behind = some (more, rest) ∧
        rolls = term.rolledAs faces :: more := by
  have hunfold : roll Tape.draw (term :: terms) = (do
      let first ← term.roll Tape.draw
      let more ← roll Tape.draw terms
      return first :: more) := List.mapM_cons
  simp only [hunfold, run_bind_iff, Term.run_roll_iff]
  constructor
  · rintro ⟨_, behind, ⟨faces, hfaces, rfl, rfl⟩, more, _, hmore, hdone⟩
    obtain ⟨rfl, rfl⟩ := Prod.mk.inj (Option.some.inj hdone)
    exact ⟨faces, behind, more, hfaces, rfl, hmore, rfl⟩
  · rintro ⟨faces, behind, more, hfaces, rfl, hmore, rfl⟩
    exact ⟨_, behind, ⟨faces, hfaces, rfl, rfl⟩, more, rest, hmore, rfl⟩

/-- A sum uses up a tape exactly if there is a fitting face for each of its dice. -/
theorem run_roll_ends_iff {terms : List Term} {tape : Tape} :
    (∃ rolls, (roll Tape.draw terms).run tape = some (rolls, [])) ↔
      CanShow (terms.flatMap Term.asked) tape := by
  induction terms generalizing tape with
  | nil =>
    constructor
    · rintro ⟨rolls, h⟩
      obtain ⟨-, rfl⟩ := Prod.mk.inj (Option.some.inj h)
      exact .nil
    · intro h
      obtain rfl := canShow_nil_iff.mp h
      exact ⟨[], rfl⟩
  | cons term terms ih =>
    rw [List.flatMap_cons, canShow_append_iff]
    constructor
    · rintro ⟨rolls, h⟩
      obtain ⟨faces, behind, more, hfaces, rfl, hmore, -⟩ := run_roll_cons_iff.mp h
      exact ⟨faces, behind, hfaces, ih.mp ⟨more, hmore⟩, rfl⟩
    · rintro ⟨faces, behind, hfaces, hbehind, rfl⟩
      obtain ⟨more, hmore⟩ := ih.mpr hbehind
      exact ⟨_, run_roll_cons_iff.mpr ⟨faces, behind, more, hfaces, rfl, hmore, rfl⟩⟩

end DiceSum
