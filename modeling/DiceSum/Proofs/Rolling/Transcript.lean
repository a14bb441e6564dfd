import DiceSum.Proofs.Rolling.Tape

/-!
# Rolling with a transcript

A transcript keeps the questions that a source is asked, and the faces that it shows, in the order in which
they come. From a source that answers in range a roll asks for each of its dice once, from the first to the
last, and the faces of its transcript are a tape from which the same values are rolled
(`transcribes_roll`).

The relation that the induction carries ties three runs of one computation together: with the source, with
the source and a transcript, and from the tape (`Transcribes`). It is closed under steps in a row, so a roll
needs only its one step, the draw.
-/

namespace DiceSum

/-- A source together with its questions and answers. -/
structure Transcript (σ : Type) where
  source : σ
  /-- The numbers of sides asked for, in order. -/
  asked : List Int
  /-- The faces shown, in order. -/
  shown : Tape

variable {σ : Type} {draw : Int → Drawing σ Int}

/-- Draws, and notes the question and the face. A question that fails has no face. -/
def transcribing (draw : Int → Drawing σ Int) (sides : Int) : Drawing (Transcript σ) Int :=
  ExceptT.mk fun transcript =>
    let (face, after) := (draw sides).run.run transcript.source
    (face, {
      source := after
      asked := transcript.asked ++ [sides]
      shown := transcript.shown ++ face.toOption.toList })

section Relation

variable {α β : Type}

/-- From every state, a computation with a source asks these questions, whatever was asked before, and comes
to the result that it has from the tape of the answers. -/
def Transcribes (asked : List Int) (x : Drawing σ α) (noted : Drawing (Transcript σ) α)
    (taped : StateT Tape Option α) : Prop :=
  ∀ before, ∃ result faces after, x.run.run before = (.ok result, after) ∧
    (∀ tape, taped.run (faces ++ tape) = some (result, tape)) ∧
    ∀ earlier shown, noted.run.run ⟨before, earlier, shown⟩ =
      (.ok result, ⟨after, earlier ++ asked, shown ++ faces⟩)

/-- A result at hand asks no question in any of the three runs. -/
theorem transcribes_pure (result : α) :
    Transcribes [] (pure result : Drawing σ α) (pure result) (pure result) := by
  intro before
  refine ⟨result, [], before, rfl, fun tape => rfl, fun earlier shown => ?_⟩
  rw [List.append_nil, List.append_nil]
  rfl

/-- Two steps ask the questions of the first and then those of the second. -/
theorem Transcribes.bind {asked asked' : List Int} {x : Drawing σ α}
    {noted : Drawing (Transcript σ) α} {taped : StateT Tape Option α} {f : α → Drawing σ β}
    {noted' : α → Drawing (Transcript σ) β} {taped' : α → StateT Tape Option β}
    (h : Transcribes asked x noted taped)
    (h' : ∀ result, Transcribes asked' (f result) (noted' result) (taped' result)) :
    Transcribes (asked ++ asked') (x >>= f) (noted >>= noted') (taped >>= taped') := by
  intro before
  obtain ⟨first, faces, between, hx, htaped, hnoted⟩ := h before
  obtain ⟨second, faces', after, hf, htaped', hnoted'⟩ := h' first between
  refine ⟨second, faces ++ faces', after, (run_bind_of_ok hx f).trans hf, ?_, ?_⟩
  · intro tape
    -- The first step leaves the faces of the second on the tape, in front of the rest.
    rw [List.append_assoc, run_bind_iff]
    exact ⟨first, faces' ++ tape, htaped _, htaped' tape⟩
  · intro earlier shown
    rw [run_bind_of_ok (hnoted earlier shown), hnoted', List.append_assoc, List.append_assoc]

/-- Steps in a row ask the questions of each of them, one after another. -/
theorem transcribes_mapM {asked : α → List Int} {f : α → Drawing σ β}
    {noted : α → Drawing (Transcript σ) β} {taped : α → StateT Tape Option β} {xs : List α}
    (h : ∀ x ∈ xs, Transcribes (asked x) (f x) (noted x) (taped x)) :
    Transcribes (xs.flatMap asked) (xs.mapM f) (xs.mapM noted) (xs.mapM taped) := by
  induction xs with
  | nil => exact transcribes_pure []
  | cons x xs ih =>
    rw [List.forall_mem_cons] at h
    rw [List.mapM_cons, List.mapM_cons, List.mapM_cons, List.flatMap_cons]
    refine h.1.bind fun first => ?_
    have hrest := (ih h.2).bind fun rest => transcribes_pure (first :: rest)
    rwa [List.append_nil] at hrest

end Relation

/-- A draw asks its question and shows the face that comes from the tape of its answer. -/
theorem transcribes_draw (h : AnswersInRange draw) {sides : Int} (hsides : 0 < sides) :
    Transcribes [sides] (draw sides) (transcribing draw sides) (Tape.draw sides) := by
  intro before
  obtain ⟨face, after, hrun, hface⟩ := h sides hsides before
  refine ⟨face, [face], after, hrun, fun tape => Tape.run_draw_iff.mpr ⟨hface, rfl⟩, ?_⟩
  intro earlier shown
  change (((draw sides).run.run before).1, Transcript.mk ((draw sides).run.run before).2
    (earlier ++ [sides]) (shown ++ ((draw sides).run.run before).1.toOption.toList)) = _
  rw [hrun]
  rfl

/-- A term asks for each of its dice once. -/
theorem Term.transcribes_roll (h : AnswersInRange draw) {term : Term} (hfaces : term.HasFaces) :
    Transcribes term.asked (term.roll draw) (term.roll (transcribing draw))
      (term.roll Tape.draw) := by
  cases term with
  | constant value => exact transcribes_pure _
  | dice count sides =>
    have hdraws : Transcribes (List.replicate count.natAbs sides)
        (drawFaces draw sides count.natAbs) (drawFaces (transcribing draw) sides count.natAbs)
        (drawFaces Tape.draw sides count.natAbs) := by
      rw [drawFaces_eq_mapM, drawFaces_eq_mapM, drawFaces_eq_mapM]
      have hall : ∀ most ∈ List.replicate count.natAbs sides,
          Transcribes [most] (draw most) (transcribing draw most) (Tape.draw most) := by
        intro most hmost
        rw [List.eq_of_mem_replicate hmost]
        exact transcribes_draw h hfaces
      simpa using transcribes_mapM hall
    have hroll := hdraws.bind fun faces => transcribes_pure ((dice count sides).rolledAs faces)
    rwa [List.append_nil] at hroll

/-- A roll asks for each of its dice once, from the first term to the last, and constants ask for nothing.
Its values are those that are rolled from the tape of the answers. -/
theorem transcribes_roll (h : AnswersInRange draw) {terms : List Term}
    (hfaces : ∀ term ∈ terms, term.HasFaces) :
    Transcribes (terms.flatMap Term.asked) (roll draw terms) (roll (transcribing draw) terms)
      (roll Tape.draw terms) :=
  transcribes_mapM fun term hterm => term.transcribes_roll h (hfaces term hterm)

end DiceSum
