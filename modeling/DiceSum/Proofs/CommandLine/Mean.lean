import DiceSum.Proofs.CommandLine.Surfaces
import DiceSum.Proofs.Mean.Stagnation

/-!
# Asking for the mean

Terms that a text can write always have a finite mean, so asking for the mean never spoils an answer. A
service declines a request only because its text is refused, and so does a command that has come to its
sum: its arguments, its level of detail and its source are in order (`mean_finite_on_request`). No command
fails because of a mean (`failure_of_command`).
-/

namespace DiceSum

variable {σ : Type} {draw : Int → Drawing σ Int}

/-- The answer to a request for the mean has the terms of the text, and a finite mean. -/
theorem report_of_run_answer (hdraw : Answers draw) {text : Text} {terms : List Term}
    (h : readSome text = .ok terms) {before after : σ} {report : Report}
    (hrun : (answer draw text true).run.run before = (.ok report, after)) :
    report.terms = terms ∧
      ∃ halves, mean terms = .ok (.finite halves) ∧ report.mean = some (.finite halves) ∧
        halves.natAbs ≤ 2 ^ 116 := by
  obtain ⟨found, last, hfound, -, hterms, hmean, -⟩ := run_answer_of_read hdraw h true before
  obtain ⟨hreport, -⟩ := Prod.mk.inj (hfound.symm.trans hrun)
  obtain rfl : found = report := Except.ok.inj hreport
  obtain ⟨halves, hbounded, hle⟩ := mean_bounded (inBounds_of_read (readSome_eq_ok_iff.mp h).1)
  rw [meanIf, if_pos rfl, hbounded] at hmean
  exact ⟨hterms, halves, hbounded, (Except.ok.inj hmean).symm, hle⟩

/-- A command that has a level of detail and a source rolls the words that its arguments leave. -/
theorem command_of_read (system : Source) {settings : Settings} {arguments words : List Text}
    {options : Options} {least : Nat}
    (hread : Options.read (Seed.ofOption settings.seed) arguments = .ok (options, words))
    (hlevel : threshold settings options.verbose = .ok least) :
    ∃ events, command settings system arguments =
      rollAndPrint system options.seed (joinWith [' '] words) options.average events := by
  rw [command, hread]
  change ∃ events, (threshold settings options.verbose >>= _) = _
  rw [hlevel]
  exact ⟨_, rfl⟩

/-- A command as a whole fails only for want of a level of detail or of a source. -/
theorem failure_of_command {settings : Settings} {system : Source} {arguments : List Text}
    {failure : Failure} (h : command settings system arguments = .error failure) :
    failure = .blankSeed ∨ ∃ name, failure = .unknownLevel name := by
  cases hread : Options.read (Seed.ofOption settings.seed) arguments with
  | error stop =>
    rw [command, hread] at h
    cases h
  | ok asked =>
    obtain ⟨options, words⟩ := asked
    cases hlevel : threshold settings options.verbose with
    | ok least =>
      obtain ⟨events, hcommand⟩ := command_of_read system hread hlevel
      exact .inl (rollAndPrint_eq_error_iff.mp (hcommand.symm.trans h)).2.2
    | error cause =>
      rw [command, hread] at h
      change (threshold settings options.verbose >>= _) = _ at h
      rw [hlevel] at h
      obtain rfl : cause = failure := Except.error.inj h
      unfold threshold at hlevel
      split at hlevel
      · cases hlevel
      · split at hlevel
        · cases hlevel
        · exact .inr ⟨_, (Except.error.inj hlevel).symm⟩

/-- Terms in range, such as those of every text that is read, all have a mean, and the mean of their sum
is finite and at most 2 ^ 115 in magnitude. So a service that is asked for the mean answers with a finite
mean or declines with the message of a refusal. A command that is asked for it, with arguments, level and
source in order, prints the total of its roll and the finite mean of its terms, or the message of a
refusal. Without these a command fails as a whole, and for no other reason. -/
theorem mean_finite_on_request (hdraw : Answers draw) :
    (∀ terms : List Term, (∀ term ∈ terms, term.InBounds) →
      (∀ term ∈ terms, ∃ halves, term.mean = .ok halves) ∧
        ∃ halves, mean terms = .ok (.finite halves) ∧ halves.natAbs ≤ 2 * 2 ^ 115) ∧
    (∀ text terms, read text = .ok terms → ∀ term ∈ terms, term.InBounds) ∧
    (∀ text before,
      (∃ report after halves, (serve draw text true).run.run before = (.ok report, after) ∧
        report.mean = some (.finite halves) ∧ halves.natAbs ≤ 2 * 2 ^ 115) ∨
      (∃ refusal, readSome text = .error refusal ∧
        (serve draw text true).run.run before = (.error (.declined refusal.message), before))) ∧
    (∀ settings system arguments options words least source,
      Options.read (Seed.ofOption settings.seed) arguments = .ok (options, words) →
      options.average = true → threshold settings options.verbose = .ok least →
      Source.ofSeed system options.seed = .ok source →
      ∃ outcome, command settings system arguments = .ok outcome ∧
        ((∃ terms rolls after halves, readSome (joinWith [' '] words) = .ok terms ∧
          (roll Source.draw terms).run.run source = (.ok rolls, after) ∧
          mean terms = .ok (.finite halves) ∧ halves.natAbs ≤ 2 * 2 ^ 115 ∧ outcome.exit = 0 ∧
          outcome.output = printed terms (total rolls) (some (.finite halves)) ∧
          outcome.complaint = []) ∨
        (∃ refusal, readSome (joinWith [' '] words) = .error refusal ∧ outcome.exit = 2 ∧
          outcome.output = [] ∧ outcome.complaint = refusal.message ++ ['\n']))) ∧
    (∀ settings system arguments failure, command settings system arguments = .error failure →
      failure = .blankSeed ∨ ∃ name, failure = .unknownLevel name) := by
  refine ⟨?_, fun text terms => inBounds_of_read, ?_, ?_, fun _ _ _ _ => failure_of_command⟩
  · intro terms h
    exact ⟨fun term hterm => ⟨_, Term.mean_of_inBounds (h term hterm)⟩, mean_bounded h⟩
  · intro text before
    cases hread : readSome text with
    | ok terms =>
      left
      obtain ⟨report, after, hanswer, -⟩ := run_answer_of_read hdraw hread true before
      obtain ⟨-, halves, -, hmean, hle⟩ := report_of_run_answer hdraw hread hanswer
      refine ⟨report, after, halves, ?_, hmean, hle⟩
      rw [run_serve, hanswer]
      rfl
    | error refusal =>
      right
      refine ⟨refusal, rfl, ?_⟩
      rw [run_serve, run_answer_of_refused draw hread true before]
      rfl
  · intro settings system arguments options words least source harguments haverage hlevel hsource
    obtain ⟨events, hcommand⟩ := command_of_read system harguments hlevel
    rw [haverage] at hcommand
    rw [hcommand]
    cases hread : readSome (joinWith [' '] words) with
    | ok terms =>
      obtain ⟨report, after, hanswer, hroll, -, hprint⟩ :=
        rollAndPrint_of_read hsource hread true events
      obtain ⟨hterms, halves, hmean, hreport, hle⟩ :=
        report_of_run_answer answers_source hread hanswer
      rw [hterms, hreport] at hprint
      exact ⟨_, hprint,
        .inl ⟨terms, report.rolls, after, halves, rfl, hroll, hmean, hle, rfl, rfl, rfl⟩⟩
    | error refusal =>
      have hprint : rollAndPrint system options.seed (joinWith [' '] words) true events =
          .ok { exit := 2, output := [], events, complaint := refusal.message ++ ['\n'] } := by
        rw [rollAndPrint, hread]
      exact ⟨_, hprint, .inr ⟨refusal, rfl, rfl, rfl, rfl⟩⟩

/-- The greatest dice that a text can write have a mean, and a command prints it. -/
theorem mean_finite_on_request_greatest :
    Answers Source.draw ∧
      (∀ term ∈ [Term.dice (-0x80000000) 0xffffffff, .constant (-0x80000000)], term.InBounds) ∧
      (∃ halves, mean [.dice (-0x80000000) 0xffffffff, .constant (-0x80000000)] =
        .ok (.finite halves) ∧ halves.natAbs ≤ 2 * 2 ^ 115) ∧
      ∃ outcome, command (Settings.mk "WARNING".toList (some 7) []) (.script ⟨#[], 0⟩)
        ["--avg".toList, "2147483647d4294967295".toList] = .ok outcome ∧ outcome.exit = 0 := by
  obtain ⟨hmeans, -, -, hcommands, -⟩ := mean_finite_on_request answers_source
  have hbounds : ∀ term ∈ [Term.dice (-0x80000000) 0xffffffff, .constant (-0x80000000)],
      term.InBounds := by
    decide
  have harguments : Options.read (Seed.ofOption (some 7))
      ["--avg".toList, "2147483647d4294967295".toList] =
        .ok (⟨true, false, .number 7, some ["2147483647d4294967295".toList], []⟩,
          ["2147483647d4294967295".toList]) := rfl
  obtain ⟨outcome, hcommand,
      ⟨terms, rolls, after, halves, -, -, -, -, hexit, -⟩ | ⟨refusal, hread, -⟩⟩ :=
    hcommands (Settings.mk "WARNING".toList (some 7) []) (.script ⟨#[], 0⟩) _ _ _ _ _
      harguments rfl rfl rfl
  · exact ⟨answers_source, hbounds, (hmeans _ hbounds).2, outcome, hcommand, hexit⟩
  · have hok : (readSome "2147483647d4294967295".toList).isOk = true := by decide +kernel
    rw [show readSome "2147483647d4294967295".toList = _ from hread] at hok
    cases hok

end DiceSum
