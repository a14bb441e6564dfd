import DiceSum.Proofs.Report.Answer
import DiceSum.Proofs.Rolling.Transcript

/-!
# What a report accounts for

A report has an entry for every term. The values of its dice, entry after entry, are the faces that the
source showed, in the order in which it showed them: a value for each face, with the other sign if the dice
of its term subtract, and no value more (`Report.AccountsFor`).

The entries of a roll follow from the tape that the roll uses up, by induction on the terms
(`entries_of_run_roll`). The faces that a source shows are such a tape, so the same holds of every request
that is read (`report_accountsFor_shown`).
-/

namespace DiceSum

/-- The values that the dice of an entry contributed. -/
def Entry.rolls : Entry → List Int
  | .dice _ _ rolls _ => rolls
  | .constant _ _ => []

/-- The subtotal of an entry. -/
def Entry.subtotal : Entry → Int
  | .dice _ _ _ subtotal => subtotal
  | .constant _ subtotal => subtotal

/-- The entry of a rolled term has the subtotal of the term. -/
theorem Rolled.subtotal_entry (rolled : Rolled) : rolled.entry.subtotal = rolled.subtotal := by
  unfold Rolled.entry
  split <;> rfl

/-- The total of a roll is the sum of the subtotals that are entered. -/
theorem total_eq_sum_entries (rolls : List Rolled) :
    total rolls = ((rolls.map Rolled.entry).map Entry.subtotal).sum := by
  induction rolls with
  | nil => rfl
  | cons rolled rolls ih =>
    rw [total_cons, ih, List.map_cons, List.map_cons, List.sum_cons, Rolled.subtotal_entry]

/-- The entries that a term can rightly have. Dice are entered with a value for each of them and with the
sum of these values; a value is a face of theirs, or the negative of a face if the count is negative. -/
inductive Term.EnteredAs : Term → Entry → Prop
  | dice {count sides : Int} {rolls : List Int} (length_eq : rolls.length = count.natAbs)
      (range : ∀ value ∈ rolls,
        if count < 0 then -sides ≤ value ∧ value ≤ -1 else 1 ≤ value ∧ value ≤ sides) :
      EnteredAs (.dice count sides) (.dice count sides rolls rolls.sum)
  | constant (value : Int) : EnteredAs (.constant value) (.constant value value)

namespace Term

/-- What a die contributes that shows this face. -/
def contribution (subtracts : Bool) (face : Int) : Int :=
  if subtracts then -face else face

/-- Die by die, whether a term subtracts what its dice show. -/
def subtracted : Term → List Bool
  | dice count _ => List.replicate count.natAbs (decide (count < 0))
  | constant _ => []

/-- The values of dice are their faces, all with the sign of the count. -/
theorem values_rolledAs_dice (count sides : Int) (faces : Tape) :
    ((dice count sides).rolledAs faces).values = faces.map (contribution (decide (count < 0))) := by
  change (if count < 0 then faces.map (-·) else faces) = _
  by_cases hcount : count < 0
  · rw [if_pos hcount, decide_eq_true hcount]
    rfl
  · rw [if_neg hcount, decide_eq_false hcount]
    exact (List.map_id faces).symm

/-- A term whose dice showed these faces has a right entry. -/
theorem enteredAs_rolledAs {term : Term} {faces : Tape} (h : CanShow term.asked faces) :
    term.EnteredAs (term.rolledAs faces).entry := by
  cases term with
  | constant value =>
    have hsubtotal : (rolledAs faces (constant value)).subtotal = value := Int.add_zero value
    rw [Rolled.entry, hsubtotal]
    exact .constant value
  | dice count sides =>
    obtain ⟨hlength, hrange⟩ := canShow_replicate_iff.mp h
    refine .dice ?_ ?_
    · rw [values_rolledAs_dice, List.length_map, hlength]
    · intro value hvalue
      rw [values_rolledAs_dice] at hvalue
      obtain ⟨face, hface, rfl⟩ := List.mem_map.mp hvalue
      have hbounds := hrange face hface
      by_cases hcount : count < 0
      · rw [if_pos hcount, contribution, if_pos (decide_eq_true hcount)]
        omega
      · rw [if_neg hcount, contribution, if_neg (by simpa using hcount)]
        exact hbounds

/-- There is one sign for every question. -/
theorem length_subtracted (term : Term) : term.subtracted.length = term.asked.length := by
  cases term with
  | constant value => rfl
  | dice count sides => rw [subtracted, asked, List.length_replicate, List.length_replicate]

/-- Equal signs are put to all faces. -/
theorem zipWith_replicate_contribution (subtracts : Bool) (faces : Tape) :
    List.zipWith contribution (List.replicate faces.length subtracts) faces =
      faces.map (contribution subtracts) := by
  induction faces with
  | nil => rfl
  | cons face faces ih =>
    rw [List.length_cons, List.replicate_succ, List.zipWith_cons_cons, ih, List.map_cons]

/-- The values of a term are the faces of its dice, with their signs. -/
theorem rolls_rolledAs {term : Term} {faces : Tape} (h : CanShow term.asked faces) :
    (term.rolledAs faces).entry.rolls = List.zipWith contribution term.subtracted faces := by
  cases term with
  | constant value => rfl
  | dice count sides =>
    obtain ⟨hlength, -⟩ := canShow_replicate_iff.mp h
    rw [subtracted, ← hlength, zipWith_replicate_contribution]
    exact values_rolledAs_dice count sides faces

end Term

/-- A roll that uses up its tape has a right entry for every term, and its values are the faces of the tape,
with their signs. -/
theorem entries_of_run_roll {terms : List Term} {rolls : List Rolled} {faces : Tape}
    (h : (roll Tape.draw terms).run faces = some (rolls, [])) :
    List.Forall₂ Term.EnteredAs terms (rolls.map Rolled.entry) ∧
      (rolls.map Rolled.entry).flatMap Entry.rolls =
        List.zipWith Term.contribution (terms.flatMap Term.subtracted) faces := by
  induction terms generalizing rolls faces with
  | nil =>
    obtain ⟨rfl, rfl⟩ := Prod.mk.inj (Option.some.inj h)
    exact ⟨.nil, rfl⟩
  | cons term terms ih =>
    obtain ⟨ahead, behind, more, hahead, rfl, hmore, rfl⟩ := run_roll_cons_iff.mp h
    obtain ⟨hentered, hrolls⟩ := ih hmore
    have hlength : term.subtracted.length = ahead.length :=
      term.length_subtracted.trans hahead.length_eq
    refine ⟨.cons (Term.enteredAs_rolledAs hahead) hentered, ?_⟩
    rw [List.map_cons, List.flatMap_cons, List.flatMap_cons, hrolls, Term.rolls_rolledAs hahead,
      List.zipWith_append hlength]

/-- There is one sign for every die. -/
theorem length_flatMap_subtracted (terms : List Term) :
    (terms.flatMap Term.subtracted).length = (terms.flatMap Term.asked).length := by
  simp only [List.length_flatMap, Term.length_subtracted]

/-- What a report has to say of terms whose dice showed these faces, one after another. -/
structure Report.AccountsFor (report : Report) (terms : List Term) (faces : Tape) : Prop where
  /-- Every term has its entry, in order. -/
  entered : List.Forall₂ Term.EnteredAs terms report.entries
  /-- No value is without a face. -/
  length_eq : (report.entries.flatMap Entry.rolls).length = faces.length
  /-- Every face is the value in its place, negated exactly if it comes from dice of a negative count. -/
  value : ∀ (k : Nat) (face : Int), faces[k]? = some face →
    ∃ subtracts, (terms.flatMap Term.subtracted)[k]? = some subtracts ∧
      (report.entries.flatMap Entry.rolls)[k]? = some (if subtracts then -face else face)
  /-- The total is the sum of the subtotals. -/
  total : report.total = (report.entries.map Entry.subtotal).sum

/-- The report of a roll that uses up its tape accounts for the faces of the tape. -/
theorem Report.accountsFor_of_run_roll {report : Report} {terms : List Term} {faces : Tape}
    (h : (roll Tape.draw terms).run faces = some (report.rolls, [])) :
    report.AccountsFor terms faces := by
  obtain ⟨hentered, hrolls⟩ := entries_of_run_roll h
  have hlength : (terms.flatMap Term.subtracted).length = faces.length :=
    (length_flatMap_subtracted terms).trans (run_roll_ends_iff.mp ⟨_, h⟩).length_eq
  change report.entries.flatMap Entry.rolls = _ at hrolls
  refine ⟨hentered, ?_, ?_, total_eq_sum_entries report.rolls⟩
  · rw [hrolls, List.length_zipWith, hlength, Nat.min_self]
  · intro k face hface
    have hk : k < (terms.flatMap Term.subtracted).length :=
      hlength ▸ (List.getElem?_eq_some_iff.mp hface).1
    refine ⟨(terms.flatMap Term.subtracted)[k], List.getElem?_eq_getElem hk, ?_⟩
    rw [hrolls, List.getElem?_zipWith, List.getElem?_eq_getElem hk, hface]
    rfl

/-- A text that is read and has a term is answered from every source that answers in range. The questions
are the sides of its dice, once for each die and in the order of the text, and nothing is asked for a
constant. The report accounts for the faces that the source showed: it has an entry for each term, and
each face in turn as a value of its dice, with their sign. -/
theorem report_accountsFor_shown {σ : Type} {draw : Int → Drawing σ Int} (hdraw : AnswersInRange draw)
    {text : Text} {terms : List Term} (hread : read text = .ok terms) (hterms : terms ≠ [])
    (withMean : Bool) (before : σ) :
    ∃ report after faces, (answer draw text withMean).run.run before = (.ok report, after) ∧
      (answer (transcribing draw) text withMean).run.run ⟨before, [], []⟩ =
        (.ok report, ⟨after, terms.flatMap Term.asked, faces⟩) ∧
      CanShow (terms.flatMap Term.asked) faces ∧ report.AccountsFor terms faces := by
  have hsome := readSome_eq_ok_iff.mpr ⟨hread, hterms⟩
  have hbounds := inBounds_of_read hread
  obtain ⟨rolls, faces, after, hroll, htape, hnoted⟩ :=
    transcribes_roll hdraw (fun term hterm => (hbounds term hterm).hasFaces) before
  have hends := htape []
  rw [List.append_nil] at hends
  obtain ⟨mean, hmean, -⟩ := meanIf_of_inBounds hbounds withMean
  exact ⟨{ input := text, rolls, mean }, after, faces, run_answer_of_rolled hsome hroll hmean,
    run_answer_of_rolled hsome (hnoted [] []) hmean, run_roll_ends_iff.mp ⟨rolls, hends⟩,
    Report.accountsFor_of_run_roll hends⟩

/-- Two dice less three others and five more are entered with the five faces that a script shows. -/
theorem report_accountsFor_shown_script :
    AnswersInRange Source.draw ∧
      read "2d6 - 3d4 + 5".toList = .ok [.dice 2 6, .dice (-3) 4, .constant 5] ∧
      [Term.dice 2 6, .dice (-3) 4, .constant 5] ≠ [] ∧
      ∃ report after, (answer (transcribing Source.draw) "2d6 - 3d4 + 5".toList false).run.run
          ⟨.script ⟨#[3, 5, 0, 9], 0⟩, [], []⟩ =
            (.ok report, ⟨after, [6, 6, 4, 4, 4], [4, 6, 1, 2, 4]⟩) ∧
        report.AccountsFor [.dice 2 6, .dice (-3) 4, .constant 5] [4, 6, 1, 2, 4] ∧
        report.entries =
          [.dice 2 6 [4, 6] 10, .dice (-3) 4 [-1, -2, -4] (-7), .constant 5 5] := by
  have hread : read "2d6 - 3d4 + 5".toList = .ok [.dice 2 6, .dice (-3) 4, .constant 5] := by
    decide +kernel
  have hterms : [Term.dice 2 6, .dice (-3) 4, .constant 5] ≠ [] := List.cons_ne_nil _ _
  obtain ⟨report, after, faces, -, hnoted, -, haccounts⟩ :=
    report_accountsFor_shown answersInRange_source hread hterms false (.script ⟨#[3, 5, 0, 9], 0⟩)
  have hshown : ((answer (transcribing Source.draw) "2d6 - 3d4 + 5".toList false).run.run
      ⟨.script ⟨#[3, 5, 0, 9], 0⟩, [], []⟩).2.shown = [4, 6, 1, 2, 4] := by
    decide +kernel
  have hentries : ((answer (transcribing Source.draw) "2d6 - 3d4 + 5".toList false).run.run
      ⟨.script ⟨#[3, 5, 0, 9], 0⟩, [], []⟩).1.toOption.map Report.entries =
        some [.dice 2 6 [4, 6] 10, .dice (-3) 4 [-1, -2, -4] (-7), .constant 5 5] := by
    decide +kernel
  rw [hnoted] at hshown hentries
  obtain rfl : faces = [4, 6, 1, 2, 4] := hshown
  exact ⟨answersInRange_source, hread, hterms, report, after, hnoted, haccounts,
    Option.some.inj hentries⟩

end DiceSum
