import Mathlib.Data.List.TakeWhile
import DiceSum.Proofs.CommandLine.Mean
import DiceSum.Proofs.Reading.Language
import DiceSum.Proofs.Text.Join

/-!
# Words without a separator

Dice notation may start with a minus sign, and so do options. Behind a separator that does not matter;
without one, every word is classed by its look. Of the words that make up a sum in dice notation none is
taken for an option or for the start of one (`InNotation`, `classify_of_inNotation`): a word is either
plain, and then a part of the sum, or a stray, and then the command is used wrongly. So the command does
without the separator exactly if all its words are plain (`command_unseparated`).
-/

namespace DiceSum

/-- A minus sign and digits, with a line feed behind them at most. -/
def IsMinusNumber (word : Text) : Prop :=
  word.head? = some '-' ∧ startsWith Char.isDigit word.tail = true ∧
    word.tail.dropWhile Char.isDigit ∈ [[], ['\n']]

instance (word : Text) : Decidable (IsMinusNumber word) :=
  inferInstanceAs (Decidable (_ ∧ _ ∧ _))

/-- Whether a word of a sum needs no separator in front of it: it is empty or starts with another character
than a minus sign, it is a lone minus sign, it has a space in it, or it is a minus sign and digits. -/
def IsPlainWord (word : Text) : Prop :=
  word = [] ∨ word.head? ≠ some '-' ∨ word = ['-'] ∨ ' ' ∈ word ∨ IsMinusNumber word

instance (word : Text) : Decidable (IsPlainWord word) :=
  inferInstanceAs (Decidable (_ ∨ _ ∨ _ ∨ _ ∨ _))

/-- What is known of a word of a sum in dice notation: its characters, and that it does not start with two
minus signs. -/
structure InNotation (word : Text) : Prop where
  alphabet : ∀ c ∈ word, isBlank c = true ∨ isSignMark c = true ∨ c.isDigit = true ∨ isDieMark c = true
  single : ∀ rest, word ≠ '-' :: '-' :: rest

/-- The words of a sum that is read. -/
theorem inNotation_of_read {words : List Text} {terms : List Term}
    (h : read (joinWith [' '] words) = .ok terms) : ∀ word ∈ words, InNotation word := by
  intro word hword
  obtain ⟨before, after, htext⟩ := exists_joinWith_eq_append hword [' ']
  have hwritten := isWritten_of_read h
  rw [htext] at hwritten
  refine ⟨fun c hc => hwritten.alphabet c (by simp [hc]), ?_⟩
  intro rest hrest
  have hsigns := hwritten.signs before '-' ('-' :: (rest ++ after)) (by simp [hrest]) rfl
  rw [List.dropWhile_cons_of_neg (by decide)] at hsigns
  cases hsigns

section Classing

/-- Of the digits of all scripts, dice notation has the ASCII ones. -/
theorem isSome_anyDigit? {c : Char}
    (h : isBlank c = true ∨ isSignMark c = true ∨ c.isDigit = true ∨ isDieMark c = true) :
    (anyDigit? c).isSome = c.isDigit := by
  rcases h with hblank | hsign | hdigit | hmark
  · simp only [isBlank, Bool.or_eq_true, beq_iff_eq] at hblank
    rcases hblank with ((((rfl | rfl) | rfl) | rfl) | rfl) | rfl <;> decide
  · simp only [isSignMark, Bool.or_eq_true, beq_iff_eq] at hsign
    rcases hsign with rfl | rfl <;> decide
  · have hbounds := hdigit
    simp only [Char.isDigit, Bool.and_eq_true, decide_eq_true_eq] at hbounds
    have hlow : 48 ≤ c.toNat := UInt32.le_iff_toNat_le.mp hbounds.1
    have hhigh : c.toNat ≤ 57 := UInt32.le_iff_toNat_le.mp hbounds.2
    rw [hdigit, anyDigit?, zeroDigits, List.find?_cons_of_pos]
    · rfl
    · simp only [Bool.and_eq_true, decide_eq_true_eq]
      omega
  · simp only [isDieMark, Bool.or_eq_true, beq_iff_eq] at hmark
    rcases hmark with rfl | rfl <;> decide

/-- A negative number in the characters of dice notation is a minus sign and digits. -/
theorem isNegativeNumber_iff {number : Text} (h : ∀ c ∈ number,
      isBlank c = true ∨ isSignMark c = true ∨ c.isDigit = true ∨ isDieMark c = true) :
    isNegativeNumber ('-' :: number) = true ↔ number ≠ [] ∧ number.all Char.isDigit = true := by
  have hpoint : number.contains '.' = false := by
    rw [List.contains_eq_mem, decide_eq_false_iff_not]
    intro hmem
    exact absurd (h '.' hmem) (by decide)
  have hdigits : (number.all fun c => (anyDigit? c).isSome) = number.all Char.isDigit := by
    rw [Bool.eq_iff_iff, List.all_eq_true, List.all_eq_true]
    exact forall₂_congr fun c hc => by rw [isSome_anyDigit? (h c hc)]
  rw [isNegativeNumber, hpoint, isDigits, hdigits]
  simp

/-- A minus sign and digits, with their line feed written out. -/
theorem isMinusNumber_iff {number : Text} :
    IsMinusNumber ('-' :: number) ↔
      ∃ digits, digits ≠ [] ∧ digits.all Char.isDigit = true ∧
        (number = digits ∨ number = digits ++ ['\n']) := by
  have hsplit := List.takeWhile_append_dropWhile (p := Char.isDigit) (l := number)
  constructor
  · intro h
    have hrest : number.dropWhile Char.isDigit = [] ∨ number.dropWhile Char.isDigit = ['\n'] := by
      simpa using h.2.2
    refine ⟨number.takeWhile Char.isDigit, takeWhile_ne_nil_of_startsWith h.2.1, List.all_takeWhile,
      ?_⟩
    rcases hrest with hrest | hrest
    · rw [hrest, List.append_nil] at hsplit
      exact .inl hsplit.symm
    · rw [hrest] at hsplit
      exact .inr hsplit.symm
  · intro ⟨digits, hne, hall, hnumber⟩
    have hstart := startsWith_run hne hall
    rcases hnumber with rfl | rfl
    · have hrest : number.dropWhile Char.isDigit = [] :=
        List.dropWhile_eq_nil_iff.mpr (List.all_eq_true.mp hall)
      exact ⟨rfl, hstart, by simp [hrest]⟩
    · refine ⟨rfl, ?_, ?_⟩
      · rw [List.tail_cons, startsWith_append hne, hstart]
      · rw [List.tail_cons, dropWhile_run hall rfl]
        simp

/-- A line feed at the end is dropped. -/
theorem dropFinalLineFeed_concat (s : Text) : dropFinalLineFeed (s ++ ['\n']) = s := by
  simp [dropFinalLineFeed]

/-- Without a line feed at the end, nothing is dropped. -/
theorem dropFinalLineFeed_of_endsWith {s : Text} (h : endsWith (· == '\n') s = false) :
    dropFinalLineFeed s = s := by
  have hlast : s.getLast? ≠ some '\n' := by
    intro hlast
    obtain ⟨front, rfl⟩ := List.getLast?_eq_some_iff.mp hlast
    simp at h
  rw [dropFinalLineFeed, if_neg hlast]

variable {word : Text}

/-- A word with a minus sign and more is a number for the command exactly if digits follow the sign. -/
theorem isNegativeNumber_dropFinalLineFeed_iff {number : Text} (h : InNotation ('-' :: number)) :
    isNegativeNumber (dropFinalLineFeed ('-' :: number)) = true ↔ IsMinusNumber ('-' :: number) := by
  have halphabet := (List.forall_mem_cons.mp h.alphabet).2
  rw [isMinusNumber_iff]
  constructor
  · intro hnumber
    cases hend : endsWith (· == '\n') ('-' :: number) with
    | false =>
      rw [dropFinalLineFeed_of_endsWith hend, isNegativeNumber_iff halphabet] at hnumber
      exact ⟨number, hnumber.1, hnumber.2, .inl rfl⟩
    | true =>
      obtain ⟨front, rfl⟩ : ∃ front, number = front ++ ['\n'] := by
        rcases List.eq_nil_or_concat number with rfl | ⟨front, c, rfl⟩
        · cases hend
        · rw [List.concat_eq_append, ← List.cons_append, endsWith_concat, beq_iff_eq] at hend
          exact ⟨front, by rw [hend, List.concat_eq_append]⟩
      rw [← List.cons_append, dropFinalLineFeed_concat,
        isNegativeNumber_iff fun c hc => halphabet c (List.mem_append_left _ hc)] at hnumber
      exact ⟨front, hnumber.1, hnumber.2, .inr rfl⟩
  · intro ⟨digits, hne, hall, hnumber⟩
    rcases hnumber with rfl | rfl
    · have hend : endsWith (· == '\n') ('-' :: number) = false := by
        rw [← List.singleton_append, endsWith_append hne]
        refine endsWith_run hall fun c hc => ?_
        rw [beq_eq_false_iff_ne]
        rintro rfl
        cases hc
      rw [dropFinalLineFeed_of_endsWith hend, isNegativeNumber_iff halphabet]
      exact ⟨hne, hall⟩
    · rw [← List.cons_append, dropFinalLineFeed_concat,
        isNegativeNumber_iff fun c hc => halphabet c (List.mem_append_left _ hc)]
      exact ⟨hne, hall⟩

/-- No option is spelled with a minus sign and another character of dice notation. -/
theorem spelled?_eq_none {second : Char} (h : isBlank second = true ∨ isSignMark second = true ∨
      second.isDigit = true ∨ isDieMark second = true) (hminus : second ≠ '-') (attached : Text) :
    Flag.spelled? ('-' :: second :: attached) = none := by
  have hspellings : ∀ entry ∈ Flag.spellings, entry.1.tail.head? ∈ [some 'h', some 'v', some '-'] := by
    decide
  rw [Flag.spelled?, List.lookup_eq_none_iff]
  intro entry hentry
  rw [bne_iff_ne]
  intro heq
  have hsecond := hspellings entry hentry
  rw [← heq] at hsecond
  have hletter : second = 'h' ∨ second = 'v' := by simpa [hminus] using hsecond
  rcases hletter with rfl | rfl <;> exact absurd h (by decide)

/-- How a word of dice notation is classed where no separator stands in front of it. -/
def Argument.unseparated (word : Text) : Argument :=
  if IsPlainWord word then .word word else .stray word

/-- What has nothing of an option is classed by whether it is plain. -/
theorem ofOther_of_inNotation {number : Text} (h : InNotation ('-' :: number)) (hne : number ≠ []) :
    Argument.ofOther ('-' :: number) = .unseparated ('-' :: number) := by
  have hplain : IsPlainWord ('-' :: number) ↔
      IsMinusNumber ('-' :: number) ∨ ' ' ∈ '-' :: number := by
    simp [IsPlainWord, hne, or_comm]
  apply if_congr _ rfl rfl
  rw [hplain, Bool.or_eq_true, isNegativeNumber_dropFinalLineFeed_iff h, List.contains_iff_mem]

/-- A word of a sum in dice notation is classed as a word if it is plain, and as a stray if it is not. -/
theorem classify_of_inNotation (h : InNotation word) :
    Argument.classify word = .ok (.unseparated word) := by
  unfold Argument.classify
  split
  · rename_i second attached
    -- No option starts like this, so nothing but the look of the word is left to class it by.
    have hminus : second ≠ '-' := fun heq => h.single attached (by rw [heq])
    have hnone := spelled?_eq_none (h.alphabet second (by simp)) hminus
    rw [hnone attached]
    change (if second = '-' then _ else _) = _
    rw [if_neg hminus, Argument.ofShort, hnone []]
    exact congrArg Except.ok (ofOther_of_inNotation h (List.cons_ne_nil second attached))
  · rename_i hshort
    have hplain : IsPlainWord word := by
      match word with
      | [] => exact .inl rfl
      | [c] => by_cases hc : c = '-' <;> simp [IsPlainWord, hc]
      | c :: second :: attached =>
        refine .inr (.inl fun hc => ?_)
        exact hshort second attached (by rw [Option.some.inj hc])
    rw [Argument.unseparated, if_pos hplain]

/-- Words of a sum in dice notation are all classed, and none of them is a separator. -/
theorem classifyAll_of_inNotation {words : List Text} (h : ∀ word ∈ words, InNotation word) :
    Argument.classifyAll words = .ok (words.map .unseparated) := by
  induction words with
  | nil => rfl
  | cons word words ih =>
    rw [List.forall_mem_cons] at h
    exact Argument.classifyAll_cons (h.1.single []) (classify_of_inNotation h.1) (ih h.2)

end Classing

namespace Options

/-- Taking a run keeps what is left over. -/
theorem leftOver_takeRun_ne_nil {options : Options} (h : options.leftOver ≠ []) (run : List Text) :
    (options.takeRun run).leftOver ≠ [] := by
  rw [takeRun]
  split
  · exact h
  · exact List.append_ne_nil_of_left_ne_nil h run

/-- Nothing asked for but a sum. -/
def ofWords (seed : Seed) (words : List Text) : Options :=
  { start seed with words := some words }

/-- Of words and strays, the strays are left over. -/
theorem collect_unseparated (words : List Text) (options : Options) (run : List Text) :
    ∃ final, options.collect run (words.map .unseparated) = .ok final ∧
      (options.leftOver ≠ [] ∨ (∃ word ∈ words, ¬ IsPlainWord word) → final.leftOver ≠ []) := by
  induction words generalizing options run with
  | nil =>
    refine ⟨options.takeRun run, rfl, ?_⟩
    simpa using fun h => leftOver_takeRun_ne_nil h run
  | cons word words ih =>
    rw [List.map_cons]
    by_cases hword : IsPlainWord word
    · obtain ⟨final, hfinal, hleft⟩ := ih options (run ++ [word])
      rw [Argument.unseparated, if_pos hword, collect]
      refine ⟨final, hfinal, ?_⟩
      simpa [hword] using hleft
    · obtain ⟨final, hfinal, hleft⟩ :=
        ih { options.takeRun run with leftOver := (options.takeRun run).leftOver ++ [word] } []
      rw [Argument.unseparated, if_neg hword, collect]
      exact ⟨final, hfinal, fun _ => hleft (.inl (by simp))⟩

/-- Behind a separator the words of a sum are read as they are. -/
theorem read_separated (seed : Seed) {words : List Text} (hwords : words ≠ []) :
    read seed ("--".toList :: words) = .ok (ofWords seed words, words) := by
  rw [read, Argument.classifyAll_separator]
  change ((start seed).collect [] (.separator :: words.map .word)).bind check = _
  rw [collect_separated rfl hwords]
  rfl

/-- Plain words of a sum in dice notation are read as behind a separator. -/
theorem read_plain (seed : Seed) {words : List Text} (hwords : words ≠ [])
    (h : ∀ word ∈ words, InNotation word) (hplain : ∀ word ∈ words, IsPlainWord word) :
    read seed words = .ok (ofWords seed words, words) := by
  have hclassed : words.map Argument.unseparated = words.map .word :=
    List.map_congr_left fun word hword => if_pos (hplain word hword)
  have herase : words.erase "--".toList = words :=
    List.erase_of_not_mem fun hmem => (h _ hmem).single [] rfl
  rw [read, classifyAll_of_inNotation h, hclassed]
  change ((start seed).collect [] (words.map .word)).bind check = _
  rw [collect_words, List.nil_append, takeRun, herase, if_pos ⟨hwords, rfl⟩]
  rfl

/-- With a stray among them, the words of a sum in dice notation are a wrong use of the command: the sum is
missing, or something is left over. No word is taken for an option. -/
theorem read_stray (seed : Seed) {words : List Text} (h : ∀ word ∈ words, InNotation word)
    (hstray : ∃ word ∈ words, ¬ IsPlainWord word) :
    ∃ wrong, read seed words = .error (.misuse wrong) ∧
      (wrong = .wordsMissing ∨ ∃ arguments, wrong = .leftOver arguments) := by
  obtain ⟨final, hfinal, hleft⟩ := collect_unseparated words (start seed) []
  have hread : read seed words = final.check := by
    rw [read, classifyAll_of_inNotation h]
    change ((start seed).collect [] (words.map .unseparated)).bind check = _
    rw [hfinal]
    rfl
  rw [hread, check]
  cases final.words with
  | none => exact ⟨_, rfl, .inl rfl⟩
  | some found =>
    refine ⟨.leftOver final.leftOver, ?_, .inr ⟨_, rfl⟩⟩
    change (if final.leftOver = [] then _ else _) = _
    rw [if_neg (hleft (.inr hstray))]

end Options

/-- Whether settings name a known level of detail. -/
def Settings.NamesLevel (settings : Settings) : Prop :=
  upperCase settings.logLevel ∈ thresholds.map Prod.fst

instance (settings : Settings) : Decidable settings.NamesLevel :=
  inferInstanceAs (Decidable (_ ∈ _))

/-- A known level of detail has a threshold. -/
theorem threshold_of_namesLevel {settings : Settings} (h : settings.NamesLevel) (verbose : Bool) :
    ∃ least, threshold settings verbose = .ok least := by
  have hall : ∀ name ∈ thresholds.map Prod.fst, (thresholds.lookup name).isSome = true := by decide
  obtain ⟨least, hlookup⟩ := Option.isSome_iff_exists.mp (hall _ h)
  unfold threshold
  split
  · exact ⟨_, rfl⟩
  · rw [hlookup]
    exact ⟨_, rfl⟩

/-- Seeds of settings always have a source. -/
theorem exists_ofSeed_ofOption (system : Source) (seed : Option Int) :
    ∃ source, Source.ofSeed system (Seed.ofOption seed) = .ok source := by
  cases seed with
  | none => exact ⟨_, rfl⟩
  | some n => exact ⟨_, rfl⟩

/-- A text with a term is rolled and printed, without a mean if it is not asked for. -/
theorem rollAndPrint_without_mean {system source : Source} {seed : Seed}
    (hsource : Source.ofSeed system seed = .ok source) {text : Text} {terms : List Term}
    (h : readSome text = .ok terms) (events : List Event) :
    ∃ sum, rollAndPrint system seed text false events =
      .ok { exit := 0, output := printed terms sum none, events, complaint := [] } := by
  obtain ⟨report, after, hanswer, -, hmean, hprint⟩ := rollAndPrint_of_read hsource h false events
  obtain ⟨found, last, hfound, -, hterms, -⟩ := run_answer_of_read answers_source h false source
  obtain ⟨hsame, -⟩ := Prod.mk.inj (hfound.symm.trans hanswer)
  obtain rfl : found = report := Except.ok.inj hsame
  have hnone : found.mean = none := by simpa using hmean
  rw [hterms, hnone] at hprint
  exact ⟨found.total, hprint⟩

/-- Words that make up a sum with a term are rolled behind a separator. Without the separator the command
does just the same if all of them are plain. If one is not, the command is used wrongly: it ends with code 2
and prints nothing but its usage and what is wrong, although the words make up a sum. -/
theorem command_unseparated {settings : Settings} (hlevel : settings.NamesLevel) (system : Source)
    {words : List Text} {terms : List Term} (hread : readSome (joinWith [' '] words) = .ok terms) :
    ∃ rolled sum, command settings system ("--".toList :: words) = .ok rolled ∧
      rolled.exit = 0 ∧ rolled.output = printed terms sum none ∧ rolled.complaint = [] ∧
      ((∀ word ∈ words, IsPlainWord word) → command settings system words = .ok rolled) ∧
      ((∃ word ∈ words, ¬ IsPlainWord word) → ∃ wrong misused,
        command settings system words = .ok misused ∧ misused = (Stop.misuse wrong).outcome ∧
        misused.exit = 2 ∧ misused.output = [] ∧
        (wrong = .wordsMissing ∨ ∃ arguments, wrong = .leftOver arguments)) := by
  obtain ⟨hok, hterms⟩ := readSome_eq_ok_iff.mp hread
  have hnotation := inNotation_of_read hok
  have hwords : words ≠ [] := by
    rintro rfl
    have hempty : read (joinWith [' '] []) = .ok [] := by simp [joinWith, read, readFrom]
    exact hterms (Except.ok.inj (hok.symm.trans hempty))
  obtain ⟨source, hsource⟩ := exists_ofSeed_ofOption system settings.seed
  obtain ⟨least, hleast⟩ := threshold_of_namesLevel hlevel false
  have hseparated := Options.read_separated (Seed.ofOption settings.seed) hwords
  obtain ⟨events, hcommand⟩ := command_of_read system hseparated hleast
  obtain ⟨sum, hprint⟩ := rollAndPrint_without_mean hsource hread events
  have hrolled := hcommand.trans hprint
  refine ⟨_, sum, hrolled, rfl, rfl, rfl, ?_, ?_⟩
  · intro hplain
    rw [← hrolled, command, command, hseparated,
      Options.read_plain (Seed.ofOption settings.seed) hwords hnotation hplain]
  · intro hstray
    obtain ⟨wrong, hwrong, hkind⟩ := Options.read_stray (Seed.ofOption settings.seed) hnotation hstray
    refine ⟨wrong, (Stop.misuse wrong).outcome, ?_, rfl, rfl, rfl, hkind⟩
    rw [command, hwrong]

/-- The words `-2` with a line feed, `+ d6`, `-` and `3` need no separator, and `d6` and `-5` with a tab
do. -/
theorem command_unseparated_number_and_tab :
    (Settings.mk "debug".toList (some 7) []).NamesLevel ∧
      (∃ rolled, command (Settings.mk "debug".toList (some 7) []) (.script ⟨#[], 0⟩)
          ["--".toList, "-2\n".toList, "+ d6".toList, "-".toList, "3".toList] = .ok rolled ∧
        command (Settings.mk "debug".toList (some 7) []) (.script ⟨#[], 0⟩)
          ["-2\n".toList, "+ d6".toList, "-".toList, "3".toList] = .ok rolled ∧ rolled.exit = 0) ∧
      readSome "d6 -5\t".toList = .ok [.dice 1 6, .constant (-5)] ∧
      ∃ misused, command (Settings.mk "debug".toList (some 7) []) (.script ⟨#[], 0⟩)
          ["d6".toList, "-5\t".toList] = .ok misused ∧ misused.exit = 2 ∧ misused.output = [] := by
  have hlevel : (Settings.mk "debug".toList (some 7) []).NamesLevel := by decide
  have hplain : readSome (joinWith [' '] ["-2\n".toList, "+ d6".toList, "-".toList, "3".toList]) =
      .ok [.constant (-2), .dice 1 6, .constant (-3)] := by
    decide +kernel
  have htab : readSome (joinWith [' '] ["d6".toList, "-5\t".toList]) =
      .ok [.dice 1 6, .constant (-5)] := by
    decide +kernel
  obtain ⟨rolled, -, hseparated, hexit, -, -, hsame, -⟩ :=
    command_unseparated hlevel (.script ⟨#[], 0⟩) hplain
  obtain ⟨-, -, -, -, -, -, -, hstray⟩ :=
    command_unseparated hlevel (.script ⟨#[], 0⟩) htab
  obtain ⟨-, misused, hcommand, -, hcode, hsilent, -⟩ := hstray (by decide)
  exact ⟨hlevel, ⟨rolled, hseparated, hsame (by decide), hexit⟩, htab, misused, hcommand, hcode, hsilent⟩

end DiceSum
