import DiceSum.Proofs.CommandLine.Surfaces
import DiceSum.Proofs.Reading.Noting
import DiceSum.Proofs.Text.Join

/-!
# Asking for all events

A command that is asked to show all events reads the rest of its arguments as it does without the wish
(`Options.read_verbose`): the wish is a field that no step of collecting the options looks at. What it then
rolls and prints is handed the events and leaves them as they are (`rollAndPrint_events`). So under quiet
settings the two runs of a command differ in two lines of the log, of which the second traces how the text
was read (`command_verbose`).
-/

namespace DiceSum

namespace Options

/-- The same options with the wish to see all events. -/
def verbosely (options : Options) : Options :=
  { options with verbose := true }

/-- Steps that go the same way with the wish to see all events do so one after the other. -/
theorem bind_verbosely {f : Options → Except Stop Options}
    (hf : ∀ options, f options.verbosely = (f options).map verbosely) (x : Except Stop Options) :
    x.map verbosely >>= f = (x >>= f).map verbosely := by
  cases x with
  | error stop => rfl
  | ok next => exact hf next

/-- Ending a run of words does not look at the wish to see all events. -/
theorem takeRun_verbosely (options : Options) (run : List Text) :
    options.verbosely.takeRun run = (options.takeRun run).verbosely := by
  have hwords : options.verbosely.words = options.words := rfl
  rw [takeRun, takeRun, hwords]
  split <;> rfl

/-- Acting on an option without a value does not look at the wish to see all events. -/
theorem apply_verbosely (options : Options) (flag : Flag) :
    options.verbosely.apply flag = (options.apply flag).map verbosely := by
  cases flag <;> rfl

/-- Taking over a seed does not look at the wish to see all events. -/
theorem applySeed_verbosely (options : Options) (value : Text) :
    options.verbosely.applySeed value = (options.applySeed value).map verbosely := by
  unfold applySeed
  split
  · rfl
  · cases Numeral.integer? value <;> rfl

/-- Acting on a long spelling with a value does not look at the wish to see all events. -/
theorem applyAssigned_verbosely (options : Options) (flag : Flag) (value : Text) :
    options.verbosely.applyAssigned flag value = (options.applyAssigned flag value).map verbosely := by
  unfold applyAssigned
  split
  · exact options.applySeed_verbosely value
  · rfl

/-- Acting on several options in a row does not look at the wish to see all events. -/
theorem foldlM_apply_verbosely (flags : List Flag) (options : Options) :
    flags.foldlM apply options.verbosely = (flags.foldlM apply options).map verbosely := by
  induction flags generalizing options with
  | nil => rfl
  | cons flag flags ih =>
    rw [List.foldlM_cons, List.foldlM_cons, apply_verbosely, bind_verbosely ih]

/-- Acting on the options of one argument does not look at the wish to see all events. -/
theorem applyCluster_verbosely (options : Options) (flag : Flag) (attached : Text) :
    options.verbosely.applyCluster flag attached =
      (options.applyCluster flag attached).map verbosely := by
  unfold applyCluster
  cases cluster flag attached with
  | error misuse => rfl
  | ok flags => exact foldlM_apply_verbosely flags options

/-- Collecting options does not look at the wish to see all events. -/
theorem collect_verbosely (options : Options) (run : List Text) (arguments : List Argument) :
    options.verbosely.collect run arguments = (options.collect run arguments).map verbosely := by
  -- an argument ends the open run or adds to it, and then acts by one of the steps above
  fun_induction collect options run arguments with
  | case1 options run =>
    rw [collect, takeRun_verbosely]
    rfl
  | case2 options run text rest ih => rw [collect, ih]
  | case3 options run rest ih => rw [collect, ih]
  | case4 options run text rest ended ih =>
    rw [collect, takeRun_verbosely]
    exact ih
  | case5 options run value rest ih =>
    rw [collect, takeRun_verbosely, applySeed_verbosely, bind_verbosely ih]
  | case6 options run flag rest hseed ih =>
    rw [collect, takeRun_verbosely, apply_verbosely, bind_verbosely ih]
    exact hseed
  | case7 options run flag value rest ih =>
    rw [collect, takeRun_verbosely, applyAssigned_verbosely, bind_verbosely ih]
  | case8 options run flag attached rest ih =>
    rw [collect, takeRun_verbosely, applyCluster_verbosely, bind_verbosely ih]

/-- The final check hands on the wish to see all events, and does not look at it. -/
theorem check_verbosely (options : Options) :
    options.verbosely.check = options.check.map fun (checked, words) => (checked.verbosely, words) := by
  have hwords : options.verbosely.words = options.words := rfl
  have hleftOver : options.verbosely.leftOver = options.leftOver := rfl
  rw [check, check, hwords, hleftOver]
  cases options.words with
  | none => rfl
  | some words =>
    dsimp only
    split <;> rfl

/-- Asking for all events in front of all else leaves the rest of the request as it is, whether it leads to
a roll or not. -/
theorem read_verbose (seed : Seed) (arguments : List Text) :
    read seed ("-v".toList :: arguments) =
      (read seed arguments).map fun (options, words) => (options.verbosely, words) := by
  have hclassified : Argument.classifyAll ("-v".toList :: arguments) =
      (Argument.classifyAll arguments).map (.bare .verbose :: ·) := by
    rw [Argument.classifyAll, if_neg (by decide)]
    cases Argument.classifyAll arguments <;> rfl
  rw [read, read, hclassified]
  cases Argument.classifyAll arguments with
  | error misuse => rfl
  | ok classed =>
    change ((start seed).collect [] (.bare .verbose :: classed)).bind check = _
    rw [collect_bare (by decide)]
    change ((start seed).verbosely.collect [] classed).bind check = _
    rw [collect_verbosely]
    change _ = (((start seed).collect [] classed).bind check).map _
    cases (start seed).collect [] classed with
    | error stop => rfl
    | ok options => exact check_verbosely options

end Options

/-- Whether an event traces the reading of a text: it says with how many terms the text was read just if it
was read with so many, and it says that the text was rejected just if it was. -/
structure Event.TracesReading (event : Event) (text : Text) : Prop where
  parsed : ∀ count : Nat,
    "Parsed ".toList ++ Decimal.ofNat count ++ " term(s)".toList <+: event.message ↔
      ∃ terms, read text = .ok terms ∧ terms.length = count
  rejecting : "Rejecting ".toList <+: event.message ↔ ∃ rejection, read text = .error rejection

/-- The number of terms in the record of a text that was read is found again. -/
theorem prefix_message_parsed_iff (text : Text) (terms count : Nat) :
    "Parsed ".toList ++ Decimal.ofNat count ++ " term(s)".toList <+: (Event.parsed text terms).message ↔
      terms = count := by
  change _ <+: "Parsed ".toList ++ Decimal.ofNat terms ++ " term(s) from ".toList ++ quoted text ↔ _
  simp only [List.append_assoc, List.prefix_append_right_inj]
  constructor
  · rintro ⟨rest, hrest⟩
    rw [List.append_assoc] at hrest
    -- the blank behind the digits tells where the number ends
    obtain ⟨hcount, -⟩ := eq_of_append_cons_eq (Decimal.notMem_ofNat rfl count)
      (Decimal.notMem_ofNat rfl terms) hrest
    exact (Decimal.ofNat_injective hcount).symm
  · rintro rfl
    rw [List.prefix_append_right_inj]
    exact ⟨" from ".toList ++ quoted text, rfl⟩

/-- The event that a reading leaves traces it. -/
theorem tracesReading_ofReading (text : Text) :
    (Event.ofReading text (read text)).TracesReading text := by
  cases hread : read text with
  | ok terms =>
    refine ⟨fun count => (prefix_message_parsed_iff text terms.length count).trans ?_, ?_⟩
    · simp [hread]
    · refine iff_of_false ?_ (by simp [hread])
      rintro ⟨rest, hrest⟩
      cases hrest
  | error rejection =>
    refine ⟨fun count => iff_of_false ?_ (by simp [hread]), ?_⟩
    · rintro ⟨rest, hrest⟩
      cases hrest
    · exact iff_of_true (List.prefix_append _ _) ⟨rejection, hread⟩

/-- The events that a command shows are handed through: they change nothing else. -/
theorem rollAndPrint_events (system : Source) (seed : Seed) (text : Text) (withMean : Bool)
    (events : List Event) :
    rollAndPrint system seed text withMean events =
      (rollAndPrint system seed text withMean []).map fun outcome => { outcome with events } := by
  rw [rollAndPrint, rollAndPrint]
  cases readSome text with
  | error refusal => rfl
  | ok terms =>
    change Source.ofSeed system seed >>= _ = Except.map _ (Source.ofSeed system seed >>= _)
    cases Source.ofSeed system seed with
    | error failure => rfl
    | ok source =>
      change ((roll Source.draw terms).run.run source).1 >>= _ =
        Except.map _ (((roll Source.draw terms).run.run source).1 >>= _)
      cases ((roll Source.draw terms).run.run source).1 with
      | error failure => rfl
      | ok rolls =>
        change meanIf withMean terms >>= _ = Except.map _ (meanIf withMean terms >>= _)
        cases meanIf withMean terms <;> rfl

/-- Whether a command that shows its steps, and traces the reading of a text by this event, leaves what a
quiet one leaves and two more lines of its log in front. -/
structure Outcome.ShowsSteps (text : Text) (trace : Event) (quiet verbose : Outcome) : Prop where
  exit : verbose.exit = quiet.exit
  output : verbose.output = quiet.output
  events : verbose.events = [.rolling text, trace]
  errorOutput : ∀ time, verbose.errorOutput time =
    time ++ ' ' :: "DEBUG dice_notation.cli: Rolling ".toList ++ quoted text ++ '\n' ::
      (time ++ ' ' :: "DEBUG dice_notation.parser: ".toList ++ trace.message ++ '\n' ::
        quiet.errorOutput time)

/-- The record of a start to roll quotes the text. -/
theorem record_rolling (text : Text) :
    (Event.rolling text).record = "DEBUG dice_notation.cli: Rolling ".toList ++ quoted text := rfl

/-- The record of a reading is its message at the level of the steps. -/
theorem record_ofReading (text : Text) (outcome : Except Rejection (List Term)) :
    (Event.ofReading text outcome).record =
      "DEBUG dice_notation.parser: ".toList ++ (Event.ofReading text outcome).message := by
  cases outcome <;> rfl

/-- What is rolled and printed without events and with the steps of the command. -/
theorem showsSteps_of_rollAndPrint {system : Source} {seed : Seed} {text : Text} {withMean : Bool}
    {quiet : Outcome} (h : rollAndPrint system seed text withMean [] = .ok quiet) :
    ∃ verbose, rollAndPrint system seed text withMean (commandSteps text) = .ok verbose ∧
      Outcome.ShowsSteps text (.ofReading text (read text)) quiet verbose := by
  have hevents := rollAndPrint_events system seed text withMean []
  rw [h] at hevents
  obtain hquiet : quiet = { quiet with events := [] } := Except.ok.inj hevents
  refine ⟨{ quiet with events := commandSteps text }, ?_, rfl, rfl, rfl, ?_⟩
  · rw [rollAndPrint_events, h]
    rfl
  · intro time
    rw [hquiet, Outcome.errorOutput, Outcome.errorOutput, commandSteps]
    simp only [List.flatMap_cons, List.flatMap_nil, record_rolling, record_ofReading, List.append_assoc,
      List.cons_append, List.nil_append]

/-- Under settings that show no steps of a computation, asking for all events in front of arguments that do
not ask for them changes no result. Arguments that lead to no roll, a wrong use or a wish for help, lead to
the same outcome, without events. Other arguments lead to the same code and the same output, behind two
lines of the log: that the words are rolled, and one that traces the reading of the words. Reading them with
a log at hand notes this one event and no other. Both commands fail alike if they need a source and are
given a seed with nothing in it. -/
theorem command_verbose {settings : Settings} (hquiet : settings.IsQuiet) (system : Source)
    (arguments : List Text) :
    (∀ stop, Options.read (Seed.ofOption settings.seed) arguments = .error stop →
      command settings system arguments = .ok stop.outcome ∧
        command settings system ("-v".toList :: arguments) = .ok stop.outcome ∧
        stop.outcome.events = []) ∧
    (∀ options words,
      Options.read (Seed.ofOption settings.seed) arguments = .ok (options, words) →
      options.verbose = false →
      ∃ trace : Event, trace.TracesReading (joinWith [' '] words) ∧
        (Noting.read (joinWith [' '] words)).run.run [.rolling (joinWith [' '] words)] =
          (read (joinWith [' '] words), [.rolling (joinWith [' '] words), trace]) ∧
        ((∃ quiet verbose, command settings system arguments = .ok quiet ∧
            command settings system ("-v".toList :: arguments) = .ok verbose ∧
            Outcome.ShowsSteps (joinWith [' '] words) trace quiet verbose) ∨
          (options.seed = .blank ∧ command settings system arguments = .error .blankSeed ∧
            command settings system ("-v".toList :: arguments) = .error .blankSeed))) := by
  constructor
  · intro stop hread
    refine ⟨by rw [command, hread], ?_, by cases stop <;> rfl⟩
    rw [command, Options.read_verbose, hread]
    rfl
  · intro options words hread hplain
    have hverbose : Options.read (Seed.ofOption settings.seed) ("-v".toList :: arguments) =
        .ok (options.verbosely, words) := by
      rw [Options.read_verbose, hread]
      rfl
    refine ⟨.ofReading (joinWith [' '] words) (read (joinWith [' '] words)),
      tracesReading_ofReading _, Noting.run_read _ _, ?_⟩
    have hquietly : command settings system arguments =
        rollAndPrint system options.seed (joinWith [' '] words) options.average [] := by
      rw [command_of_isQuiet hquiet system hread, hplain]
      rfl
    have hshowing : command settings system ("-v".toList :: arguments) =
        rollAndPrint system options.seed (joinWith [' '] words) options.average
          (commandSteps (joinWith [' '] words)) :=
      command_of_isQuiet hquiet system hverbose
    rw [hquietly, hshowing]
    cases hrolled : rollAndPrint system options.seed (joinWith [' '] words) options.average [] with
    | ok quiet =>
      obtain ⟨verbose, hshown, hsteps⟩ := showsSteps_of_rollAndPrint hrolled
      exact .inl ⟨quiet, verbose, rfl, hshown, hsteps⟩
    | error failure =>
      obtain ⟨haccepted, hseed, hfailure⟩ := rollAndPrint_eq_error_iff.mp hrolled
      exact .inr ⟨hseed, congrArg Except.error hfailure,
        rollAndPrint_eq_error_iff.mpr ⟨haccepted, hseed, rfl⟩⟩

/-- Asking for all events shows that the words `-2` and `+ d6` are two terms, also in front of the start
of a long spelling and with a seed behind the words; in front of a seed that is missing it shows nothing.
-/
theorem command_verbose_seed_last :
    (Settings.mk "warn".toList (some 7) []).IsQuiet ∧
      (∃ options, Options.read (Seed.ofOption (some 7))
          ["--av".toList, "-2".toList, "+ d6".toList, "--seed=3".toList] =
            .ok (options, ["-2".toList, "+ d6".toList]) ∧ options.verbose = false) ∧
      (∃ trace quiet verbose,
        "Parsed 2 term(s)".toList <+: trace.message ∧
          command (Settings.mk "warn".toList (some 7) []) (.script ⟨#[], 0⟩)
            ["--av".toList, "-2".toList, "+ d6".toList, "--seed=3".toList] = .ok quiet ∧
          command (Settings.mk "warn".toList (some 7) []) (.script ⟨#[], 0⟩)
            ["-v".toList, "--av".toList, "-2".toList, "+ d6".toList, "--seed=3".toList] = .ok verbose ∧
          Outcome.ShowsSteps "-2 + d6".toList trace quiet verbose) ∧
      Options.read (Seed.ofOption (some 7)) ["d6".toList, "--seed".toList] =
        .error (.misuse .seedMissing) ∧
      command (Settings.mk "warn".toList (some 7) []) (.script ⟨#[], 0⟩)
        ["-v".toList, "d6".toList, "--seed".toList] = .ok (Stop.misuse .seedMissing).outcome := by
  have hquiet : (Settings.mk "warn".toList (some 7) []).IsQuiet := by decide
  have hread : Options.read (Seed.ofOption (some 7))
      ["--av".toList, "-2".toList, "+ d6".toList, "--seed=3".toList] =
        .ok (⟨true, false, .number 3, some ["-2".toList, "+ d6".toList], []⟩,
          ["-2".toList, "+ d6".toList]) := rfl
  have hmissing : Options.read (Seed.ofOption (some 7)) ["d6".toList, "--seed".toList] =
      .error (.misuse .seedMissing) := rfl
  have hterms : read "-2 + d6".toList = .ok [.constant (-2), .dice 1 6] := by decide +kernel
  have hwording : "Parsed 2 term(s)".toList =
      "Parsed ".toList ++ Decimal.ofNat 2 ++ " term(s)".toList := by
    decide +kernel
  obtain ⟨-, hrolls⟩ := command_verbose hquiet (.script ⟨#[], 0⟩)
    ["--av".toList, "-2".toList, "+ d6".toList, "--seed=3".toList]
  obtain ⟨hstops, -⟩ := command_verbose hquiet (.script ⟨#[], 0⟩) ["d6".toList, "--seed".toList]
  obtain ⟨trace, htrace, -, ⟨quiet, verbose, hplain, hshown, hsteps⟩ | ⟨hseed, -⟩⟩ :=
    hrolls _ _ hread rfl
  · rw [hwording]
    exact ⟨hquiet, ⟨_, hread, rfl⟩,
      ⟨trace, quiet, verbose, (htrace.parsed 2).mpr ⟨_, hterms, rfl⟩, hplain, hshown, hsteps⟩, hmissing,
      (hstops _ hmissing).2.1⟩
  · cases hseed

end DiceSum
