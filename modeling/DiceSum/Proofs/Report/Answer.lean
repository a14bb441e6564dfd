import DiceSum.Proofs.Mean.Range
import DiceSum.Proofs.Rolling.Answers
import DiceSum.Report

/-!
# What a request leads to

Only the reading of a text can refuse it. A refused text is answered before anything is drawn, so it
leaves the source as it was (`run_answer_of_refused`). A text that is read has terms in range, and for
those neither rolling from a source that answers nor taking the mean can fail (`run_answer_of_read`). A
service draws as the answer itself does and only rewrites failures (`run_serve`).
-/

namespace DiceSum

/-- A text that has to have a term is read if it is read at all and has one. -/
theorem readSome_eq_ok_iff {text : Text} {terms : List Term} :
    readSome text = .ok terms ↔ read text = .ok terms ∧ terms ≠ [] := by
  unfold readSome
  cases read text with
  | error rejection => simp
  | ok found =>
    cases found with
    | nil =>
      constructor
      · intro h
        cases h
      · rintro ⟨h, hne⟩
        exact absurd (Except.ok.inj h).symm hne
    | cons term rest =>
      constructor
      · intro h
        obtain rfl := Except.ok.inj h
        exact ⟨rfl, List.cons_ne_nil term rest⟩
      · rintro ⟨h, -⟩
        obtain rfl := Except.ok.inj h
        rfl

/-- Terms in range have the mean that is asked for. -/
theorem meanIf_of_inBounds {terms : List Term} (h : ∀ term ∈ terms, term.InBounds)
    (wanted : Bool) : ∃ mean, meanIf wanted terms = .ok mean ∧ mean.isSome = wanted := by
  cases wanted with
  | false => exact ⟨none, rfl, rfl⟩
  | true =>
    rw [meanIf, if_pos rfl, mean_of_inBounds h]
    exact ⟨_, rfl, rfl⟩

variable {σ : Type} {draw : Int → Drawing σ Int} {text : Text}

/-- A text that is refused leaves the source as it was. -/
theorem run_answer_of_refused (draw : Int → Drawing σ Int) {refusal : Refusal}
    (h : readSome text = .error refusal) (withMean : Bool) (before : σ) :
    (answer draw text withMean).run.run before = (.error (.refused refusal), before) := by
  rw [answer, h]
  rfl

/-- A text that is read is answered with its roll and its mean. -/
theorem run_answer_of_rolled {terms : List Term} {withMean : Bool} {before after : σ}
    {rolls : List Rolled} {mean : Option Mean} (h : readSome text = .ok terms)
    (hroll : (roll draw terms).run.run before = (.ok rolls, after))
    (hmean : meanIf withMean terms = .ok mean) :
    (answer draw text withMean).run.run before = (.ok { input := text, rolls, mean }, after) := by
  rw [answer, h]
  change (roll draw terms >>= _).run.run before = _
  rw [run_bind_of_ok hroll, hmean]
  rfl

/-- From a source that answers, a text that is read is always answered, with the terms that it has. -/
theorem run_answer_of_read (hdraw : Answers draw) {terms : List Term} (h : readSome text = .ok terms)
    (withMean : Bool) (before : σ) :
    ∃ report after, (answer draw text withMean).run.run before = (.ok report, after) ∧
      (roll draw terms).run.run before = (.ok report.rolls, after) ∧ report.terms = terms ∧
      meanIf withMean terms = .ok report.mean ∧ report.mean.isSome = withMean := by
  have hbounds := inBounds_of_read (readSome_eq_ok_iff.mp h).1
  obtain ⟨rolls, after, hroll, hterms⟩ :=
    roll_succeeds hdraw (fun term hterm => (hbounds term hterm).hasFaces) before
  obtain ⟨mean, hmean, hwanted⟩ := meanIf_of_inBounds hbounds withMean
  exact ⟨{ input := text, rolls, mean }, after, run_answer_of_rolled h hroll hmean, hroll, hterms,
    hmean, hwanted⟩

/-- A service draws as the answer does, and hands on only the message of a refusal. -/
theorem run_serve (draw : Int → Drawing σ Int) (text : Text) (withMean : Bool) (before : σ) :
    (serve draw text withMean).run.run before =
      (((answer draw text withMean).run.run before).1.mapError Failure.flatten,
        ((answer draw text withMean).run.run before).2) :=
  rfl

end DiceSum
