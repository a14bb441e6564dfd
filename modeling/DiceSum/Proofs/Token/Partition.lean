import Mathlib.Algebra.BigOperators.Group.List.Basic
import Mathlib.Data.List.Chain
import DiceSum.Proofs.Token.Maximal
import DiceSum.Proofs.Token.Munch

/-!
# The tokens of a text partition it by maximal munch

The four kinds of tokens are alternatives of one pattern: a gap, dice, a constant, or a run of anything
inked. Trying them with backtracking finds the tokens that cutting finds (`findAll_pattern_eq`): none of
the alternatives ever profits from a second try, since no sign, blank or digit that is given back could
be taken by what follows it. So the matches of the pattern leave no gap in the text, and each of them is
of the first kind that fits and as long as it can be.
-/

namespace DiceSum

open Pattern

/-- Matches that cut a text into pieces, from its start to its end. -/
structure Partitions {Name : Type} (s : Text) (all : List (Found Name)) : Prop where
  /-- No match is empty. -/
  nonempty : ∀ found ∈ all, found.text ≠ []
  /-- The first match starts the text. -/
  start_head : ∀ found ∈ all.head?, found.start = 0
  /-- Each match starts where the one before it ends. -/
  adjacent : all.IsChain fun found next => next.start = found.start + found.text.length
  /-- Together the matches are the text. -/
  covers : all.flatMap Found.text = s
  /-- There are no more matches than characters. -/
  length_le : all.length ≤ s.length

namespace Token

/-- The parts of a text that a token captures. -/
inductive Label where
  | gap | dice | diceSign | count | sides | constant | constantSign | value | unknown
deriving DecidableEq

/-- What follows a sign that may be missing, and blanks. -/
def signed (name : Label) (behind : Pattern Label) : Pattern Label :=
  seq (opt (group name (one isSignMark))) (seq (many isBlank) behind)

/-- The digits of the count, the letter of a die, and the digits of the sides. -/
def unsignedDice : Pattern Label :=
  seq (group .count (many Char.isDigit)) (seq (one isDieMark) (group .sides (run Char.isDigit)))

/-- The digits of a constant. -/
def unsignedConstant : Pattern Label :=
  group .value (run Char.isDigit)

/-- The kinds of tokens, in the order in which they are tried. -/
def kinds : List (Label × Pattern Label) :=
  [(.gap, run isBlank), (.dice, signed .diceSign unsignedDice),
    (.constant, signed .constantSign unsignedConstant), (.unknown, run (!isBlank ·))]

/-- A token of any kind. The letter of a die may be small or capital; blanks and digits are those of
ASCII. -/
def pattern : Pattern Label :=
  alt (group .gap (run isBlank))
    (alt (group .dice (signed .diceSign unsignedDice))
      (alt (group .constant (signed .constantSign unsignedConstant))
        (group .unknown (run (!isBlank ·)))))

/-- The captured sign of a number. -/
def signGroup (name : Label) : Option Sign → List (Label × Text)
  | none => []
  | some sign => [(name, [sign.char])]

/-- The parts that are captured inside a token. -/
def inner : Token → List (Label × Text)
  | gap _ => []
  | dice sign _ count _ sides => signGroup .diceSign sign ++ [(.count, count), (.sides, sides)]
  | constant sign _ digits => signGroup .constantSign sign ++ [(.value, digits)]
  | unknown _ => []

/-- The kind of a token. -/
def kind : Token → Label
  | gap _ => .gap
  | dice .. => .dice
  | constant .. => .constant
  | unknown _ => .unknown

/-- The way to match a token before a rest. -/
def way (token : Token) (rest : Text) : Way Label :=
  Way.capture token.kind ⟨token.text, token.inner, rest⟩

/-- A token as a match at a position. -/
def found (position : Nat) (token : Token) : Found Label :=
  ⟨position, token.text, token.inner ++ [(token.kind, token.text)]⟩

/-- Tokens in a row as matches from a position on. -/
def placed (position : Nat) : List Token → List (Found Label)
  | [] => []
  | token :: rest => token.found position :: placed (position + token.text.length) rest

/-- The ways to match a token are those of its four kinds, one kind after another. -/
theorem ways_pattern (s : Text) :
    pattern.ways s = kinds.flatMap fun kind => (group kind.1 kind.2).ways s := by
  simp [pattern, kinds, ways]

/-- A sign is not tried again: what follows would have to start with it. -/
theorem settles_sign (name : Label) :
    Settles isSignMark (opt (group name (one isSignMark))) fun s =>
      ⟨Sign.text (Sign.cut s).1, signGroup name (Sign.cut s).1, (Sign.cut s).2⟩ := by
  intro s
  cases hsigned : startsWith isSignMark s with
  | true =>
    obtain ⟨sign, rest, rfl⟩ := Sign.exists_cons hsigned
    refine ⟨[Way.skip (sign.char :: rest)], ?_, ?_⟩
    · simp [ways, Sign.isSignMark_char, Sign.text, signGroup, Way.capture, Way.cons, Way.skip]
    · intro way hway
      obtain rfl := List.mem_singleton.mp hway
      exact hsigned
  | false =>
    have hnone : (one isSignMark : Pattern Label).ways s = [] := by
      cases s with
      | nil => rfl
      | cons c s => simpa [ways] using hsigned
    refine ⟨[], ?_, by simp⟩
    simp only [Sign.cut_of_unsigned hsigned, ways, hnone]
    rfl

/-- Of two disjoint classes, a text that starts with one has no run of the other. -/
theorem dropWhile_of_disjoint {p q : Char → Bool} (hdisjoint : ∀ c, p c = true → q c = false)
    {s : Text} (hs : startsWith p s = true) : s.dropWhile q = s := by
  cases s with
  | nil => rfl
  | cons c s => simp [hdisjoint c hs]

/-- What may stand behind a sign and blanks starts with neither. -/
structure FollowsSign (behind : Pattern Label) : Prop where
  avoids_sign : Avoids isSignMark behind
  avoids_blank : Avoids isBlank behind

namespace FollowsSign

variable {behind : Pattern Label}

/-- Blanks and what may follow a sign do not start with a sign. -/
theorem avoids_sign_blanks (h : FollowsSign behind) :
    Avoids isSignMark (seq (many isBlank) behind) :=
  (settles_many isBlank).avoids_seq h.avoids_blank
    (fun _ => dropWhile_of_disjoint fun _ hc => (isSignMark_only hc).1) h.avoids_sign

/-- A sign and the blanks behind it are cut off, and all tries are left to what follows. -/
theorem ways_signed (h : FollowsSign behind) (name : Label) (s : Text) :
    (signed name behind).ways s = (behind.ways (unsignedPart s)).map
      (Way.append ⟨Sign.text (Sign.cut s).1 ++ (Sign.cut s).2.takeWhile isBlank,
        signGroup name (Sign.cut s).1, unsignedPart s⟩) := by
  rw [signed, ways_seq_of_settles (settles_sign name) h.avoids_sign_blanks,
    ways_seq_of_settles (settles_many isBlank) h.avoids_blank, List.map_map]
  refine List.map_congr_left fun way _ => ?_
  simp [Way.append]

/-- A sign in front of what is matched longest first is matched longest first with it. -/
theorem strictlyGreedy_signed (h : FollowsSign behind) (name : Label)
    (hbehind : StrictlyGreedy behind) : StrictlyGreedy (signed name behind) :=
  (settles_sign name).strictlyGreedy_seq h.avoids_sign_blanks
    ((settles_many isBlank).strictlyGreedy_seq h.avoids_blank hbehind)

end FollowsSign

/-- All digits in front are the count, and any other try gives back one of them. -/
theorem settles_count :
    Settles Char.isDigit (group Label.count (many Char.isDigit)) fun s =>
      ⟨s.takeWhile Char.isDigit, [(Label.count, s.takeWhile Char.isDigit)],
        s.dropWhile Char.isDigit⟩ :=
  (settles_many Char.isDigit).group Label.count

/-- The letter of a die and its sides do not start with a digit. -/
theorem avoids_digit_die :
    Avoids Char.isDigit (seq (one isDieMark) (group Label.sides (run Char.isDigit))) :=
  (avoids_one fun _ hc => (isDigit_only hc).2.1).seq _

/-- Dice without a sign start with a digit or the letter of a die, and avoid any other class. -/
theorem avoids_unsignedDice {p : Char → Bool} (hdigit : ∀ c, p c = true → c.isDigit = false)
    (hmark : ∀ c, p c = true → isDieMark c = false) : Avoids p unsignedDice :=
  settles_count.avoids_seq avoids_digit_die (fun _ => dropWhile_of_disjoint hdigit)
    ((avoids_one hmark).seq _)

/-- Dice without a sign start with neither a sign nor a blank. -/
theorem followsSign_unsignedDice : FollowsSign unsignedDice where
  avoids_sign :=
    avoids_unsignedDice (fun _ hc => (isSignMark_only hc).2.1) fun _ hc => (isSignMark_only hc).2.2
  avoids_blank :=
    avoids_unsignedDice (fun _ hc => (isBlank_only hc).1) fun _ hc => (isBlank_only hc).2.1

/-- A constant without a sign starts with neither a sign nor a blank. -/
theorem followsSign_unsignedConstant : FollowsSign unsignedConstant where
  avoids_sign := ((avoids_one fun _ hc => (isSignMark_only hc).2.1).seq _).group _
  avoids_blank := ((avoids_one fun _ hc => (isBlank_only hc).1).seq _).group _

/-- Every kind of token is strictly greedy. -/
theorem strictlyGreedy_of_mem_kinds {kind : Label × Pattern Label} (h : kind ∈ kinds) :
    StrictlyGreedy kind.2 := by
  have hdice : StrictlyGreedy unsignedDice :=
    settles_count.strictlyGreedy_seq avoids_digit_die
      (((strictlyGreedy_run Char.isDigit).group Label.sides).one_seq isDieMark)
  have hconstant : StrictlyGreedy unsignedConstant := (strictlyGreedy_run Char.isDigit).group _
  simp only [kinds, List.mem_cons, List.not_mem_nil, or_false] at h
  rcases h with rfl | rfl | rfl | rfl
  · exact strictlyGreedy_run isBlank
  · exact followsSign_unsignedDice.strictlyGreedy_signed .diceSign hdice
  · exact followsSign_unsignedConstant.strictlyGreedy_signed .constantSign hconstant
  · exact strictlyGreedy_run (!isBlank ·)

/-- Of dice, only digits of the sides are ever given back. -/
example : ((signed .diceSign unsignedDice).ways "- 2d10".toList).map Way.text =
    ["- 2d10".toList, "- 2d1".toList] := by decide

/-- At a blank, the first way to match a gap is the token that is cut off there. -/
theorem head?_ways_gap {c : Char} (h : isBlank c = true) (s : Text) :
    ((group .gap (run isBlank)).ways (c :: s)).head? = some ((next c s).1.way (next c s).2) := by
  have hne : (c :: s).takeWhile isBlank ≠ [] := takeWhile_ne_nil_of_startsWith h
  rw [head?_ways_group, head?_ways_run, if_neg hne, next, if_pos h]
  rfl

/-- Where no blank stands, no gap matches. -/
theorem head?_ways_gap_of_inked {c : Char} (h : isBlank c = false) (s : Text) :
    ((group Label.gap (run isBlank)).ways (c :: s)).head? = none := by
  have hnil : (c :: s).takeWhile isBlank = [] := takeWhile_eq_nil_of_startsWith h
  rw [head?_ways_group, head?_ways_run, if_pos hnil, Option.map_none]

/-- The first way to match dice is the dice token at the head of the text, if there is one. -/
theorem head?_ways_dice (s : Text) :
    ((group .dice (signed .diceSign unsignedDice)).ways s).head? =
      (Head.of s).dice?.map fun p => p.1.way p.2 := by
  have hrest : (unsignedPart s).dropWhile Char.isDigit = (Head.of s).rest := rfl
  rw [head?_ways_group, followsSign_unsignedDice.ways_signed, unsignedDice,
    ways_seq_of_settles settles_count avoids_digit_die, hrest, Head.dice?]
  cases (Head.of s).rest with
  | nil => rfl
  | cons mark after =>
    by_cases hmark : isDieMark mark = true
    · rw [ways_one_seq hmark]
      simp only [List.head?_map, head?_ways_group, head?_ways_run, hmark, head?_any]
      cases hdigit : startsWith Char.isDigit after with
      | false => simp [takeWhile_eq_nil_of_startsWith hdigit]
      | true =>
        rw [if_neg (takeWhile_ne_nil_of_startsWith hdigit)]
        simp [Way.capture, Way.append, Way.cons, way, text, inner, kind, Head.of, unsignedPart]
    · simp [ways_one_seq_of_not hmark, hmark]

/-- The first way to match a constant is the constant at the head of the text, if there is one. -/
theorem head?_ways_constant (s : Text) :
    ((group .constant (signed .constantSign unsignedConstant)).ways s).head? =
      (Head.of s).constant?.map fun p => p.1.way p.2 := by
  have hdigits : (unsignedPart s).takeWhile Char.isDigit = (Head.of s).digits := rfl
  rw [head?_ways_group, followsSign_unsignedConstant.ways_signed, List.head?_map,
    unsignedConstant, head?_ways_group, head?_ways_run, hdigits, Head.constant?]
  split
  · rfl
  · simp [Way.append, Way.capture, text, inner, way, kind, Head.of, unsignedPart]

/-- Where no blank stands, the first way to match anything is the run that is cut off there. -/
theorem head?_ways_unknown {c : Char} (h : isBlank c = false) (s : Text) :
    ((group .unknown (run (!isBlank ·))).ways (c :: s)).head? =
      some ((unknownRun (c :: s)).1.way (unknownRun (c :: s)).2) := by
  have hinked : startsWith (!isBlank ·) (c :: s) = true := by simpa using h
  rw [head?_ways_group, head?_ways_run, if_neg (takeWhile_ne_nil_of_startsWith hinked)]
  rfl

/-- The first way to match the pattern of tokens is the token that is cut off. -/
theorem head?_ways_pattern (c : Char) (s : Text) :
    (pattern.ways (c :: s)).head? = some ((next c s).1.way (next c s).2) := by
  rw [pattern, head?_ways_alt, head?_ways_alt, head?_ways_alt, head?_ways_dice,
    head?_ways_constant]
  cases hblank : isBlank c with
  | true => rw [head?_ways_gap hblank, Option.some_or]
  | false =>
    rw [head?_ways_gap_of_inked hblank, head?_ways_unknown hblank, next_of_inked hblank]
    cases (Head.of (c :: s)).dice? with
    | some p => rfl
    | none => cases (Head.of (c :: s)).constant? <;> rfl

/-- Searching a text for tokens finds those that cutting finds. -/
theorem findFrom_pattern (position : Nat) (s : Text) :
    findFrom pattern position false s = placed position (scan s) := by
  fun_induction scan s generalizing position with
  | case1 => exact findFrom_nil rfl position
  | case2 c s ih =>
    have hfirst : pattern.first false (c :: s) = some ((next c s).1.way (next c s).2) := by
      rw [first_false, head?_ways_pattern]
    have htaken : ((next c s).1.way (next c s).2).text.isEmpty = false := by
      simpa [way, Way.capture] using text_next_ne_nil c s
    rw [findFrom_of_first hfirst, htaken, placed]
    exact congrArg _ (ih _)

/-- The matches in a text are its tokens. -/
theorem findAll_pattern_eq (s : Text) : pattern.findAll s = placed 0 (scan s) :=
  findFrom_pattern 0 s

/-- The first of placed tokens stands at the position itself. -/
theorem start_of_mem_head?_placed {position : Nat} {tokens : List Token} {found : Found Label}
    (h : found ∈ (placed position tokens).head?) : found.start = position := by
  cases tokens with
  | nil => cases h
  | cons token rest =>
    obtain rfl := Option.some.inj h
    rfl

/-- Each placed token starts where the one in front of it ends. -/
theorem isChain_placed (position : Nat) (tokens : List Token) :
    (placed position tokens).IsChain
      fun found next => next.start = found.start + found.text.length := by
  induction tokens generalizing position with
  | nil => exact .nil
  | cons token rest ih =>
    exact List.isChain_cons.mpr ⟨fun next hnext => start_of_mem_head?_placed hnext, ih _⟩

/-- Placed tokens have the texts of the tokens. -/
theorem map_text_placed (position : Nat) (tokens : List Token) :
    (placed position tokens).map Found.text = tokens.map text := by
  induction tokens generalizing position with
  | nil => rfl
  | cons token rest ih => exact congrArg (token.text :: ·) (ih _)

/-- Each token in its place is the one that is cut off what is left of the text there. -/
theorem exists_next_of_mem_placed {position : Nat} {s : Text} {found : Found Label}
    (h : found ∈ placed position (scan s)) :
    ∃ before c rest, s = before ++ c :: rest ∧
      found = ((next c rest).1.way (next c rest).2).found (position + before.length) := by
  fun_induction scan s generalizing position with
  | case1 => cases h
  | case2 c s ih =>
    rcases List.mem_cons.mp h with rfl | h
    · exact ⟨[], c, s, rfl, rfl⟩
    · obtain ⟨before, d, rest, hs, rfl⟩ := ih h
      refine ⟨(next c s).1.text ++ before, d, rest, ?_, ?_⟩
      · rw [List.append_assoc, ← hs, text_next]
      · rw [List.length_append, Nat.add_assoc]

/-- No token of a scan is empty. -/
theorem text_ne_nil_of_mem_placed {position : Nat} {s : Text} {found : Found Label}
    (h : found ∈ placed position (scan s)) : found.text ≠ [] := by
  obtain ⟨before, c, rest, -, rfl⟩ := exists_next_of_mem_placed h
  exact text_next_ne_nil c rest

/-- The texts of the placed tokens of a scan make up the whole text. -/
theorem flatMap_text_placed (position : Nat) (s : Text) :
    (placed position (scan s)).flatMap Found.text = s := by
  rw [List.flatMap_def, map_text_placed, ← List.flatMap_def, flatMap_text_scan]

/-- A text has at most as many tokens as characters. -/
theorem length_placed_le (position : Nat) (s : Text) :
    (placed position (scan s)).length ≤ s.length := by
  have hpos : ∀ n ∈ (placed position (scan s)).map (·.text.length), 1 ≤ n := by
    intro n hn
    obtain ⟨found, hfound, rfl⟩ := List.mem_map.mp hn
    exact List.length_pos_iff.mpr (text_ne_nil_of_mem_placed hfound)
  calc (placed position (scan s)).length
      = ((placed position (scan s)).map (·.text.length)).length := by rw [List.length_map]
    _ ≤ ((placed position (scan s)).map (·.text.length)).sum := List.length_le_sum_of_one_le _ hpos
    _ = ((placed position (scan s)).flatMap Found.text).length := by rw [List.length_flatMap]
    _ = s.length := by rw [flatMap_text_placed]

/-- The placed tokens of a text take it apart from its start to its end. -/
theorem partitions_placed (s : Text) : Partitions s (placed 0 (scan s)) where
  nonempty _ hfound := text_ne_nil_of_mem_placed hfound
  start_head _ hfound := start_of_mem_head?_placed hfound
  adjacent := isChain_placed 0 (scan s)
  covers := flatMap_text_placed 0 s
  length_le := length_placed_le 0 s

/-- A token in its place is what maximal munch takes of the rest of the text. -/
theorem isMunch_of_mem_placed {s : Text} {found : Found Label}
    (h : found ∈ placed 0 (scan s)) :
    ∃ name r, IsMunch kinds (s.drop found.start) found name r := by
  obtain ⟨before, c, rest, rfl, rfl⟩ := exists_next_of_mem_placed h
  have hdrop : (before ++ c :: rest).drop (0 + before.length) = c :: rest := by simp
  have hhead := head?_ways_pattern c rest
  rw [ways_pattern] at hhead
  have hmunch := isMunch_of_head? (fun _ => strictlyGreedy_of_mem_kinds) hhead (0 + before.length)
  rwa [← hdrop] at hmunch

/-- Gaps are tried first, so no other token starts with a blank. -/
theorem startsWith_isBlank_of_isMunch {s : Text} {found : Found Label} {name : Label}
    {r : Pattern Label} (h : IsMunch kinds s found name r) (hname : name ≠ .gap) :
    startsWith isBlank found.text = false := by
  obtain ⟨before, after, hkinds, hnone⟩ := h.first_kind
  have hgap : (.gap, run isBlank) ∈ before := by
    cases before with
    | nil =>
      obtain ⟨hfirst, -⟩ := List.cons.inj hkinds
      exact absurd (congrArg Prod.fst hfirst).symm hname
    | cons kind before =>
      obtain ⟨rfl, -⟩ := List.cons.inj hkinds
      exact List.mem_cons_self
  cases htext : found.text with
  | nil => rfl
  | cons c text =>
    have hstart : [c] <+: s := by
      obtain ⟨rest, hrest⟩ := h.starts
      exact ⟨text ++ rest, by simpa [htext] using hrest⟩
    cases hblank : isBlank c with
    | false => exact hblank
    | true =>
      have hfits : (run isBlank : Pattern Label).Fits [c] [] :=
        ⟨[c], [], [], [], rfl, rfl, ⟨⟨c, hblank, rfl⟩, rfl⟩, rfl, rfl⟩
      exact absurd hfits (hnone _ hgap [c] [] hstart)

/-- The matches of the pattern in a text are its tokens. They partition the text, each of them is what
maximal munch takes where it starts, and only gaps start with a blank. -/
theorem scan_maximal_munch (s : Text) :
    pattern.findAll s = placed 0 (scan s) ∧ Partitions s (pattern.findAll s) ∧
      ∀ found ∈ pattern.findAll s, ∃ name r, IsMunch kinds (s.drop found.start) found name r ∧
        (name ≠ .gap → startsWith isBlank found.text = false) := by
  rw [findAll_pattern_eq]
  refine ⟨rfl, partitions_placed s, fun found hfound => ?_⟩
  obtain ⟨name, r, hmunch⟩ := isMunch_of_mem_placed hfound
  exact ⟨name, r, hmunch, startsWith_isBlank_of_isMunch hmunch⟩

end Token

end DiceSum
