import DiceSum.CommandLine
import DiceSum.Proofs.CommandLine.Words
import DiceSum.Proofs.Report.Answer

/-!
# Three ways to ask

A text can be rolled directly, by a service, and by a command with the words of the text. From the same
seed the three lead to the same: a command prints what the report of the direct answer says
(`rollAndPrint_of_read`), the service hands out that report, and a text that is refused ends all three
with one message. The command takes its own way from the text to the roll, so this is a theorem about
two programs, and it holds for all words behind a separator (`surfaces_agree`).
-/

namespace DiceSum

/-- Whether settings name a known level of detail that shows no steps of a computation. -/
def Settings.IsQuiet (settings : Settings) : Prop :=
  upperCase settings.logLevel ∈ thresholds.map Prod.fst ∧
    upperCase settings.logLevel ≠ "DEBUG".toList ∧ upperCase settings.logLevel ≠ "NOTSET".toList

instance (settings : Settings) : Decidable settings.IsQuiet :=
  inferInstanceAs (Decidable (_ ∧ _))

/-- Quiet settings have a threshold above the steps of a computation. -/
theorem threshold_of_isQuiet {settings : Settings} (h : settings.IsQuiet) :
    ∃ least, threshold settings false = .ok least ∧ Level.debug.weight < least := by
  obtain ⟨hknown, hdebug, hnotset⟩ := h
  have hall : ∀ name ∈ thresholds.map Prod.fst, name ≠ "DEBUG".toList → name ≠ "NOTSET".toList →
      (thresholds.lookup name).any (Level.debug.weight < ·) = true := by
    decide
  obtain ⟨least, hlookup, hleast⟩ := Option.any_eq_true _ _ |>.mp (hall _ hknown hdebug hnotset)
  refine ⟨least, ?_, of_decide_eq_true hleast⟩
  rw [threshold, if_neg (by decide), hlookup]

/-- Starting to roll and reading are steps of a computation, whatever comes of them. -/
theorem level_of_steps (text : Text) :
    (Event.rolling text).level = .debug ∧ (Event.ofReading text (read text)).level = .debug := by
  refine ⟨rfl, ?_⟩
  cases read text <;> rfl

/-- A command rolls what the direct answer rolls, and prints what its report says. -/
theorem rollAndPrint_of_read {system source : Source} {seed : Seed}
    (hsource : Source.ofSeed system seed = .ok source) {text : Text} {terms : List Term}
    (h : readSome text = .ok terms) (withMean : Bool) (events : List Event) :
    ∃ report after, (answer Source.draw text withMean).run.run source = (.ok report, after) ∧
      (roll Source.draw terms).run.run source = (.ok report.rolls, after) ∧
      report.mean.isSome = withMean ∧
      rollAndPrint system seed text withMean events =
        .ok {
          exit := 0, output := printed report.terms report.total report.mean, events
          complaint := [] } := by
  obtain ⟨report, after, hanswer, hroll, hterms, hmean, hwanted⟩ :=
    run_answer_of_read answers_source h withMean source
  refine ⟨report, after, hanswer, hroll, hwanted, ?_⟩
  rw [rollAndPrint, h]
  change (Source.ofSeed system seed >>= _) = _
  rw [hsource]
  change (((roll Source.draw terms).run.run source).1 >>= _) = _
  rw [hroll]
  change (meanIf withMean terms >>= _) = _
  rw [hmean, hterms]
  rfl

/-- Printing fails just if a text that is not refused needs a source and the seed has nothing in it. -/
theorem rollAndPrint_eq_error_iff {system : Source} {seed : Seed} {text : Text} {withMean : Bool}
    {events : List Event} {failure : Failure} :
    rollAndPrint system seed text withMean events = .error failure ↔
      (∃ terms, readSome text = .ok terms) ∧ seed = .blank ∧ failure = .blankSeed := by
  cases hread : readSome text with
  | error refusal => simp [rollAndPrint, hread]
  | ok terms =>
    have hsource : (∃ source, Source.ofSeed system seed = .ok source) ∨ seed = .blank := by
      cases seed with
      | absent => exact .inl ⟨_, rfl⟩
      | number n => exact .inl ⟨_, rfl⟩
      | blank => exact .inr rfl
    obtain ⟨source, hsource⟩ | rfl := hsource
    · obtain ⟨report, after, -, -, -, hprint⟩ := rollAndPrint_of_read hsource hread withMean events
      rw [hprint]
      refine iff_of_false (by simp) ?_
      rintro ⟨-, rfl, -⟩
      cases hsource
    · have hprint : rollAndPrint system .blank text withMean events = .error .blankSeed := by
        rw [rollAndPrint, hread]
        rfl
      rw [hprint]
      simp [eq_comm]

/-- The steps of a command that rolls a text: it starts to roll, and it has read the text. -/
def commandSteps (text : Text) : List Event :=
  [.rolling text, .ofReading text (read text)]

/-- The steps of a command have one level, so they are shown together or not at all. -/
theorem filter_commandSteps (text : Text) (least : Nat) :
    (commandSteps text).filter (least ≤ ·.level.weight) =
      if least ≤ Level.debug.weight then commandSteps text else [] := by
  obtain ⟨hrolling, hreading⟩ := level_of_steps text
  by_cases hshown : least ≤ Level.debug.weight
  · simp [commandSteps, hrolling, hreading, hshown]
  · simp [commandSteps, hrolling, hreading, hshown]

/-- With quiet settings, a command rolls the words of its arguments, joined by spaces, and shows its steps
only if the arguments ask for all events. -/
theorem command_of_isQuiet {settings : Settings} (hquiet : settings.IsQuiet) (system : Source)
    {arguments words : List Text} {options : Options}
    (hread : Options.read (Seed.ofOption settings.seed) arguments = .ok (options, words)) :
    command settings system arguments =
      rollAndPrint system options.seed (joinWith [' '] words) options.average
        (if options.verbose then commandSteps (joinWith [' '] words) else []) := by
  have hlevel : ∃ least, threshold settings options.verbose = .ok least ∧
      (least ≤ Level.debug.weight ↔ options.verbose = true) := by
    cases options.verbose with
    | true => exact ⟨Level.debug.weight, rfl, by simp⟩
    | false =>
      obtain ⟨least, hthreshold, hleast⟩ := threshold_of_isQuiet hquiet
      exact ⟨least, hthreshold, by simpa using hleast⟩
  obtain ⟨least, hthreshold, hshown⟩ := hlevel
  rw [command, hread]
  change (threshold settings options.verbose >>= _) = _
  rw [hthreshold]
  change rollAndPrint system options.seed (joinWith [' '] words) options.average
    ((commandSteps (joinWith [' '] words)).filter _) = _
  rw [filter_commandSteps]
  simp only [hshown]

/-- With quiet settings, a command that is asked for the mean of the words behind a separator rolls the
words, joined by spaces, and shows no events. -/
theorem command_average_separated {settings : Settings} (hquiet : settings.IsQuiet) (system : Source)
    {words : List Text} (hwords : words ≠ []) :
    command settings system ("--avg".toList :: "--".toList :: words) =
      rollAndPrint system (Seed.ofOption settings.seed) (joinWith [' '] words) true [] := by
  obtain ⟨options, hread, haverage, hverbose, hseed⟩ :=
    Options.read_average_separated (Seed.ofOption settings.seed) hwords
  rw [command_of_isQuiet hquiet system hread, haverage, hverbose, hseed]
  rfl

/-- From the same seed, the direct answer, the service and the command agree on every text that words
make up. Either there is one report, which the service hands out and the command prints in two lines and
nothing else, or there is one message, with which the service declines and which is all that the command
leaves. -/
theorem surfaces_agree {settings : Settings} (hquiet : settings.IsQuiet) {seed : Int}
    (hseed : settings.seed = some seed) (system : Source) {words : List Text} (hwords : words ≠ []) :
    (∃ report mean after outcome,
      (answer Source.draw (joinWith [' '] words) true).run.run (.seeded (Twister.ofSeed seed)) =
          (.ok report, after) ∧
        (serve Source.draw (joinWith [' '] words) true).run.run (.seeded (Twister.ofSeed seed)) =
          (.ok report, after) ∧
        report.mean = some mean ∧
        command settings system ("--avg".toList :: "--".toList :: words) = .ok outcome ∧
        outcome.exit = 0 ∧ (∀ time, outcome.errorOutput time = []) ∧
        outcome.output =
          report.expression ++ " = ".toList ++ Decimal.ofInt report.total ++ ['\n'] ++
            ("average of ".toList ++ report.expression ++ " = ".toList ++ mean.text ++ ['\n'])) ∨
    (∃ refusal outcome,
      (answer Source.draw (joinWith [' '] words) true).run.run (.seeded (Twister.ofSeed seed)) =
          (.error (.refused refusal), .seeded (Twister.ofSeed seed)) ∧
        (serve Source.draw (joinWith [' '] words) true).run.run (.seeded (Twister.ofSeed seed)) =
          (.error (.declined refusal.message), .seeded (Twister.ofSeed seed)) ∧
        command settings system ("--avg".toList :: "--".toList :: words) = .ok outcome ∧
        outcome.exit = 2 ∧ outcome.output = [] ∧
        ∀ time, outcome.errorOutput time = refusal.message ++ ['\n']) := by
  have hcommand := command_average_separated hquiet system hwords
  rw [hseed] at hcommand
  cases hread : readSome (joinWith [' '] words) with
  | ok terms =>
    left
    obtain ⟨report, after, hanswer, -, hmean, hprint⟩ :=
      rollAndPrint_of_read (show Source.ofSeed system (.number seed) = _ from rfl) hread true []
    obtain ⟨mean, hmean⟩ := Option.isSome_iff_exists.mp hmean
    refine ⟨report, mean, after, _, hanswer, ?_, hmean, hcommand.trans hprint, rfl, fun _ => rfl, ?_⟩
    · rw [run_serve, hanswer]
      rfl
    · rw [hmean]
      rfl
  | error refusal =>
    right
    have hanswer := run_answer_of_refused Source.draw hread true (.seeded (Twister.ofSeed seed))
    have hprint : rollAndPrint system (.number seed) (joinWith [' '] words) true [] =
        .ok { exit := 2, output := [], events := [], complaint := refusal.message ++ ['\n'] } := by
      rw [rollAndPrint, hread]
    refine ⟨refusal, _, hanswer, ?_, hcommand.trans hprint, rfl, rfl, fun _ => rfl⟩
    rw [run_serve, hanswer]
    rfl

/-- With the level of warnings and the seed 7, the surfaces agree on a roll of `-d6` and `+ 1`. -/
theorem surfaces_agree_warning :
    (Settings.mk "WARNING".toList (some 7) []).IsQuiet ∧ ["-d6".toList, "+ 1".toList] ≠ [] ∧
      ∃ report after outcome,
        (serve Source.draw "-d6 + 1".toList true).run.run (.seeded (Twister.ofSeed 7)) =
            (.ok report, after) ∧
          command (Settings.mk "WARNING".toList (some 7) []) (.script ⟨#[], 0⟩)
              ["--avg".toList, "--".toList, "-d6".toList, "+ 1".toList] = .ok outcome ∧
          outcome.exit = 0 ∧ ∀ time, outcome.errorOutput time = [] := by
  have hquiet : (Settings.mk "WARNING".toList (some 7) []).IsQuiet := by decide
  have hwords : ["-d6".toList, "+ 1".toList] ≠ [] := List.cons_ne_nil _ _
  have hread : (readSome "-d6 + 1".toList).isOk = true := by decide +kernel
  rcases surfaces_agree hquiet rfl (.script ⟨#[], 0⟩) hwords with
    ⟨report, mean, after, outcome, -, hserve, -, hcommand, hexit, hquietly, -⟩ |
    ⟨refusal, outcome, hanswer, -⟩
  · exact ⟨hquiet, hwords, report, after, outcome, hserve, hcommand, hexit, hquietly⟩
  · cases hterms : readSome "-d6 + 1".toList with
    | ok terms =>
      obtain ⟨report, after, hok, -⟩ :=
        run_answer_of_read answers_source hterms true (.seeded (Twister.ofSeed 7))
      have hsame := hok.symm.trans hanswer
      cases (Prod.mk.inj hsame).1
    | error refusal =>
      rw [hterms] at hread
      cases hread

end DiceSum
