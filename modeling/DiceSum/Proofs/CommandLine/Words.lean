import DiceSum.CommandLine.Options

/-!
# Words behind a separator

Behind the first `--` every argument is a word, whatever it looks like, and the `--` itself is taken out
of the run of words that it starts. So options in front of a `--` hold, and the arguments behind it are
the sum (`read_average_separated`).
-/

namespace DiceSum

/-- Behind the separator all arguments are words. -/
theorem Argument.classifyAll_separator (words : List Text) :
    classifyAll ("--".toList :: words) = .ok (separator :: words.map word) := by
  rw [classifyAll, if_pos rfl]

/-- In front of the separator an argument is classed on its own. -/
theorem Argument.classifyAll_cons {text : Text} {first : Argument} {rest : List Text}
    {others : List Argument} (hne : text ≠ "--".toList) (hfirst : classify text = .ok first)
    (hrest : classifyAll rest = .ok others) :
    classifyAll (text :: rest) = .ok (first :: others) := by
  rw [classifyAll, if_neg hne, hfirst, hrest]
  rfl

namespace Options

/-- Words are added to the open run. -/
theorem collect_words (options : Options) (run words : List Text) :
    options.collect run (words.map .word) = .ok (options.takeRun (run ++ words)) := by
  induction words generalizing run with
  | nil => rw [List.map_nil, collect, List.append_nil]
  | cons text words ih => rw [List.map_cons, collect, ih, List.append_assoc, List.singleton_append]

/-- The words behind a separator become the sum, if there is none yet. -/
theorem collect_separated {options : Options} (hnone : options.words = none) {words : List Text}
    (hwords : words ≠ []) :
    options.collect [] (.separator :: words.map .word) =
      .ok { options with words := some words } := by
  rw [collect, collect_words, List.nil_append, List.singleton_append, takeRun, List.erase_cons_head,
    if_pos ⟨hwords, hnone⟩]

/-- An option without a value is acted on before what follows it. -/
theorem collect_bare {flag : Flag} (hflag : flag ≠ .seed) (options : Options) (rest : List Argument) :
    options.collect [] (.bare flag :: rest) = options.apply flag >>= (·.collect [] rest) := by
  have hrun : options.takeRun [] = options := by
    rw [takeRun, if_neg (fun h => h.1 rfl), List.append_nil]
  rw [collect, hrun]
  intro value others hrest
  exact hflag

/-- Asking for the mean leaves everything else as it is. -/
theorem collect_average (options : Options) (rest : List Argument) :
    options.collect [] (.bare .average :: rest) =
      collect { options with average := true } [] rest :=
  collect_bare (by decide) options rest

/-- Asking for the mean in front of a separator asks for the mean of the words behind it. -/
theorem read_average_separated (seed : Seed) {words : List Text} (hwords : words ≠ []) :
    ∃ options, read seed ("--avg".toList :: "--".toList :: words) = .ok (options, words) ∧
      options.average = true ∧ options.verbose = false ∧ options.seed = seed := by
  have hclassed : Argument.classifyAll ("--avg".toList :: "--".toList :: words) =
      .ok (.bare .average :: .separator :: words.map .word) :=
    Argument.classifyAll_cons (by decide) rfl (Argument.classifyAll_separator words)
  rw [read, hclassed]
  change ∃ options, ((start seed).collect [] (.bare .average :: .separator :: words.map .word)).bind
    check = _ ∧ _
  rw [collect_average, collect_separated rfl hwords]
  exact ⟨_, rfl, rfl, rfl, rfl⟩

end Options

end DiceSum
