import DiceSum.Proofs.Reading.Spaced
import DiceSum.Proofs.Report.Answer

/-!
# Requests one after another

In a session requests are answered one after another from one source, some directly and some by a
service. A request that is refused draws nothing, wherever it stands. The others draw as if their texts,
joined by spaces, had been a single request: the same values, the same questions in the same order, and
the same state of the source at the end (`session_joined`).

The induction is on the requests, and what it carries is the roll of all terms that were accepted so far
(`run_session`).
-/

namespace DiceSum

/-- A text to roll, handed to a service or not, and the wish to know the mean as well. -/
structure Request where
  text : Text
  withMean : Bool
  served : Bool
deriving DecidableEq

section Acceptance

/-- Whether a text is read and has a term. -/
def isAccepted (text : Text) : Bool :=
  match read text with
  | .ok (_ :: _) => true
  | _ => false

/-- The terms of a text that is read. -/
def termsOf (text : Text) : List Term :=
  match read text with
  | .ok terms => terms
  | .error _ => []

/-- An accepted text is read, as its terms. -/
theorem readSome_of_isAccepted {text : Text} (h : isAccepted text = true) :
    readSome text = .ok (termsOf text) := by
  unfold isAccepted at h
  rw [readSome_eq_ok_iff, termsOf]
  split at h
  · rename_i term rest hread
    rw [hread]
    exact ⟨rfl, List.cons_ne_nil term rest⟩
  · cases h

/-- A text that is not accepted is refused. -/
theorem readSome_of_not_isAccepted {text : Text} (h : isAccepted text = false) :
    ∃ refusal, readSome text = .error refusal := by
  cases hread : readSome text with
  | error refusal => exact ⟨refusal, rfl⟩
  | ok terms =>
    obtain ⟨hok, hne⟩ := readSome_eq_ok_iff.mp hread
    cases terms with
    | nil => exact absurd rfl hne
    | cons term rest =>
      rw [isAccepted, hok] at h
      cases h

/-- The texts of requests that are accepted, in order. -/
def accepted (requests : List Request) : List Text :=
  (requests.map Request.text).filter isAccepted

/-- Accepted texts that are joined by spaces are read, as the terms of all of them. -/
theorem readSome_joined {requests : List Request} (h : accepted requests ≠ []) :
    readSome (joinWith [' '] (accepted requests)) =
      .ok ((accepted requests).flatMap termsOf) := by
  have hread : ∀ text ∈ accepted requests,
      read text = .ok (termsOf text) ∧ termsOf text ≠ [] := by
    intro text hmem
    exact readSome_eq_ok_iff.mp (readSome_of_isAccepted (List.mem_filter.mp hmem).2)
  refine readSome_eq_ok_iff.mpr ⟨read_joinWith fun text hmem => (hread text hmem).1, ?_⟩
  intro hnone
  obtain ⟨text, hmem⟩ := List.exists_mem_of_ne_nil _ h
  exact (hread text hmem).2 (List.flatMap_eq_nil_iff.mp hnone text hmem)

end Acceptance

variable {σ : Type} {draw : Int → Drawing σ Int}

/-- Answers a request in the way it asks for. -/
def Request.answer (draw : Int → Drawing σ Int) (request : Request) : Drawing σ Report :=
  if request.served then serve draw request.text request.withMean
  else DiceSum.answer draw request.text request.withMean

/-- Answers requests one after another from one source. What one request fails at does not keep the
next one from being answered. -/
def session (draw : Int → Drawing σ Int) (requests : List Request) :
    StateM σ (List (Except Failure Report)) :=
  requests.mapM fun request => (request.answer draw).run

/-- The reports among answers. -/
def reports (answers : List (Except Failure Report)) : List Report :=
  answers.filterMap Except.toOption

/-- A request that is not accepted fails and draws nothing. -/
theorem Request.run_answer_of_not_isAccepted (draw : Int → Drawing σ Int) {request : Request}
    (h : isAccepted request.text = false) :
    ∃ failure, ∀ before, (request.answer draw).run.run before = (.error failure, before) := by
  obtain ⟨refusal, hrefused⟩ := readSome_of_not_isAccepted h
  have hrun := run_answer_of_refused draw hrefused request.withMean
  unfold Request.answer
  split
  · refine ⟨.declined refusal.message, fun before => ?_⟩
    rw [run_serve, hrun]
    rfl
  · exact ⟨.refused refusal, hrun⟩

/-- A request that is accepted is answered with a roll of its terms. -/
theorem Request.run_answer_of_isAccepted (hdraw : Answers draw) {request : Request}
    (h : isAccepted request.text = true) (before : σ) :
    ∃ report after, (request.answer draw).run.run before = (.ok report, after) ∧
      (roll draw (termsOf request.text)).run.run before = (.ok report.rolls, after) := by
  obtain ⟨report, after, hrun, hroll, -⟩ :=
    run_answer_of_read hdraw (readSome_of_isAccepted h) request.withMean before
  refine ⟨report, after, ?_, hroll⟩
  unfold Request.answer
  split
  · rw [run_serve, hrun]
    rfl
  · exact hrun

/-- A session answers its first request, and then the others from the state that this leaves. -/
theorem run_session_cons {request : Request} {rest : List Request} {before between after : σ}
    {first : Except Failure Report} {others : List (Except Failure Report)}
    (hfirst : (request.answer draw).run.run before = (first, between))
    (hrest : (session draw rest).run between = (others, after)) :
    (session draw (request :: rest)).run before = (first :: others, after) := by
  rw [session, List.mapM_cons, StateT.run_bind, hfirst]
  change (session draw rest >>= fun others => pure (first :: others)).run between = _
  rw [StateT.run_bind, hrest]
  rfl

/-- A session in two parts answers the second from the state that the first leaves. -/
theorem run_session_append {earlier later : List Request} {before between after : σ}
    {ahead behind : List (Except Failure Report)}
    (hearlier : (session draw earlier).run before = (ahead, between))
    (hlater : (session draw later).run between = (behind, after)) :
    (session draw (earlier ++ later)).run before = (ahead ++ behind, after) := by
  rw [session, List.mapM_append]
  change (session draw earlier >>= fun ahead =>
    session draw later >>= fun behind => pure (ahead ++ behind)).run before = _
  rw [StateT.run_bind, hearlier]
  change (session draw later >>= fun behind => pure (ahead ++ behind)).run between = _
  rw [StateT.run_bind, hlater]
  rfl

/-- Every request has one answer. -/
theorem length_of_run_session {requests : List Request} {before after : σ}
    {answers : List (Except Failure Report)}
    (h : (session draw requests).run before = (answers, after)) :
    answers.length = requests.length := by
  induction requests generalizing before after answers with
  | nil =>
    obtain ⟨rfl, -⟩ := Prod.mk.inj h
    rfl
  | cons request rest ih =>
    obtain ⟨⟨first, between⟩, hfirst⟩ :
        ∃ run, (request.answer draw).run.run before = run := ⟨_, rfl⟩
    obtain ⟨⟨others, last⟩, hrest⟩ : ∃ run, (session draw rest).run between = run := ⟨_, rfl⟩
    rw [run_session_cons hfirst hrest] at h
    obtain ⟨rfl, -⟩ := Prod.mk.inj h
    rw [List.length_cons, ih hrest, List.length_cons]

/-- A session answers the requests that are accepted and no others, and rolls the terms of their texts,
one after another. -/
theorem run_session (hdraw : Answers draw) (requests : List Request) (before : σ) :
    ∃ answers after, (session draw requests).run before = (answers, after) ∧
      answers.map Except.isOk = requests.map (isAccepted ·.text) ∧
      (roll draw ((accepted requests).flatMap termsOf)).run.run before =
        (.ok ((reports answers).flatMap Report.rolls), after) := by
  induction requests generalizing before with
  | nil => exact ⟨[], before, rfl, rfl, rfl⟩
  | cons request rest ih =>
    cases hrequest : isAccepted request.text with
    | false =>
      obtain ⟨failure, hfirst⟩ := Request.run_answer_of_not_isAccepted draw hrequest
      obtain ⟨others, after, hrest, hanswered, hroll⟩ := ih before
      refine ⟨.error failure :: others, after, run_session_cons (hfirst before) hrest, ?_, ?_⟩
      · rw [List.map_cons, List.map_cons, hanswered, hrequest]
        rfl
      · rw [accepted, List.map_cons, List.filter_cons_of_neg (by simp [hrequest])]
        exact hroll
    | true =>
      obtain ⟨report, between, hfirst, hrolled⟩ :=
        Request.run_answer_of_isAccepted hdraw hrequest before
      obtain ⟨others, after, hrest, hanswered, hroll⟩ := ih between
      refine ⟨.ok report :: others, after, run_session_cons hfirst hrest, ?_, ?_⟩
      · rw [List.map_cons, List.map_cons, hanswered, hrequest]
        rfl
      · rw [accepted, List.map_cons, List.filter_cons_of_pos hrequest, List.flatMap_cons,
          roll_append, run_bind_of_ok hrolled]
        change (roll draw ((accepted rest).flatMap termsOf) >>= _).run.run between = _
        rw [run_bind_of_ok hroll]
        rfl

/-- The totals of reports add up to the total of their rolls in a row. -/
theorem sum_totals (found : List Report) :
    (found.map Report.total).sum = total (found.flatMap Report.rolls) := by
  induction found with
  | nil => rfl
  | cons report rest ih =>
    rw [List.map_cons, List.sum_cons, ih, List.flatMap_cons, total_append]
    rfl

/-- Without a request that is not accepted, a session leaves the same state and gives the same answers
to the other requests. -/
theorem run_session_of_not_isAccepted {request : Request} (h : isAccepted request.text = false)
    {earlier later : List Request} {before after : σ} {answers : List (Except Failure Report)}
    (hsession : (session draw (earlier ++ request :: later)).run before = (answers, after)) :
    ∃ ahead failure behind, answers = ahead ++ .error failure :: behind ∧
      ahead.length = earlier.length ∧
      (session draw (earlier ++ later)).run before = (ahead ++ behind, after) ∧
      ∀ now, (request.answer draw).run.run now = (.error failure, now) := by
  obtain ⟨failure, hfirst⟩ := Request.run_answer_of_not_isAccepted draw h
  obtain ⟨⟨ahead, between⟩, hearlier⟩ :
      ∃ run, (session draw earlier).run before = run := ⟨_, rfl⟩
  obtain ⟨⟨behind, last⟩, hlater⟩ :
      ∃ run, (session draw later).run between = run := ⟨_, rfl⟩
  have hwhole := run_session_append hearlier (run_session_cons (hfirst between) hlater)
  rw [hwhole] at hsession
  obtain ⟨rfl, rfl⟩ := Prod.mk.inj hsession
  exact ⟨ahead, failure, behind, rfl, length_of_run_session hearlier,
    run_session_append hearlier hlater, hfirst⟩

/-- In a session with a source that answers and notes its questions, the accepted texts are answered, and
rolled like the single text that they make up when they are joined by spaces: value by value, with the
same totals, and with the same questions up to the same state of the source. If there are none, nothing is
asked. And a request that is not accepted asks nothing and changes no other answer. -/
theorem session_joined (hdraw : Answers draw) (requests : List Request) (before : Recorded σ) :
    ∃ answers after, (session (recording draw) requests).run before = (answers, after) ∧
      answers.map Except.isOk = requests.map (isAccepted ·.text) ∧
      (accepted requests = [] → after = before) ∧
      (accepted requests ≠ [] → ∃ report,
        (answer (recording draw) (joinWith [' '] (accepted requests)) false).run.run before =
            (.ok report, after) ∧
          (reports answers).flatMap Report.rolls = report.rolls ∧
          ((reports answers).map Report.total).sum = report.total) ∧
      ∀ earlier request later, requests = earlier ++ request :: later →
        isAccepted request.text = false →
          ∃ ahead failure behind, answers = ahead ++ .error failure :: behind ∧
            ahead.length = earlier.length ∧
            (session (recording draw) (earlier ++ later)).run before = (ahead ++ behind, after) ∧
            ∀ now, (request.answer (recording draw)).run.run now = (.error failure, now) := by
  obtain ⟨answers, after, hsession, hanswered, hroll⟩ :=
    run_session hdraw.recording requests before
  refine ⟨answers, after, hsession, hanswered, ?_, ?_, ?_⟩
  · intro hnone
    rw [hnone] at hroll
    exact (Prod.mk.inj hroll).2.symm
  · intro hsome
    refine ⟨_, run_answer_of_rolled (readSome_joined hsome) hroll rfl, rfl, ?_⟩
    exact sum_totals (reports answers)
  · rintro earlier request later rfl hrejected
    exact run_session_of_not_isAccepted hrejected hsession

/-- Of four requests to a script two are rolled, like the text `d6 2d4 - 1`, with three questions. -/
theorem session_joined_script :
    Answers Source.draw ∧ ∃ answers after report,
      (session (recording Source.draw)
          [⟨"d6".toList, false, true⟩, ⟨"5d".toList, true, false⟩, ⟨[' '], false, false⟩,
            ⟨"2d4 - 1".toList, true, true⟩]).run ⟨.script ⟨#[3, 5], 0⟩, []⟩ = (answers, after) ∧
        (answer (recording Source.draw) "d6 2d4 - 1".toList false).run.run
            ⟨.script ⟨#[3, 5], 0⟩, []⟩ = (.ok report, after) ∧
        (reports answers).flatMap Report.rolls = report.rolls ∧ after.asked = [4, 4, 6] := by
  obtain ⟨answers, after, hsession, -, -, hjoined, -⟩ := session_joined answers_source
    [⟨"d6".toList, false, true⟩, ⟨"5d".toList, true, false⟩, ⟨[' '], false, false⟩,
      ⟨"2d4 - 1".toList, true, true⟩] ⟨.script ⟨#[3, 5], 0⟩, []⟩
  have haccepted : accepted [⟨"d6".toList, false, true⟩, ⟨"5d".toList, true, false⟩,
      ⟨[' '], false, false⟩, ⟨"2d4 - 1".toList, true, true⟩] =
        ["d6".toList, "2d4 - 1".toList] := by
    decide +kernel
  rw [haccepted] at hjoined
  obtain ⟨report, hanswer, hrolls, -⟩ := hjoined (List.cons_ne_nil _ _)
  have hasked : ((session (recording Source.draw)
      [⟨"d6".toList, false, true⟩, ⟨"5d".toList, true, false⟩, ⟨[' '], false, false⟩,
        ⟨"2d4 - 1".toList, true, true⟩]).run ⟨.script ⟨#[3, 5], 0⟩, []⟩).2.asked = [4, 4, 6] := by
    decide +kernel
  rw [hsession] at hasked
  exact ⟨answers_source, answers, after, report, hsession, hanswer, hrolls, hasked⟩

end DiceSum
