import DiceSum.Proofs.Token.Pattern

/-!
# Patterns that need no second try

The first way to match is the longest one, and no two ways are equally long, if a pattern is strictly
greedy (`StrictlyGreedy`). A repetition is, and so is what follows a pattern that settles: one whose
first way leaves what follows the only chance, because every other way gives back a character that
what follows cannot start with (`ways_seq_of_settles`).

A list of strictly greedy alternatives does maximal munch (`isMunch_of_head?`): the first of its ways is
of the first kind that fits any start of the text, it is the longest of its kind, and its text can be
taken apart in one way only.
-/

namespace DiceSum.Pattern

variable {Name : Type} {p : Char → Bool} {r q : Pattern Name} {pick : Text → Way Name}

/-- The first way to match at a text is the chosen one, and each other way leaves a rest that starts
with a character of the class. -/
def Settles (p : Char → Bool) (r : Pattern Name) (pick : Text → Way Name) : Prop :=
  ∀ s, ∃ others, r.ways s = pick s :: others ∧ ∀ way ∈ others, startsWith p way.rest = true

/-- The pattern matches nowhere where a character of the class stands. -/
def Avoids (p : Char → Bool) (r : Pattern Name) : Prop :=
  ∀ s, startsWith p s = true → r.ways s = []

/-- The ways to match are tried from longer to shorter, and no two of them are equally long. -/
def StrictlyGreedy (r : Pattern Name) : Prop :=
  ∀ s, (r.ways s).Pairwise fun way later => later.text.length < way.text.length

/-- The second of two alternatives counts only where the first has no way. -/
theorem head?_ways_alt (r q : Pattern Name) (s : Text) :
    ((alt r q).ways s).head? = (r.ways s).head?.or (q.ways s).head? :=
  List.head?_append

/-- The first way to match a group is the first way to match what is in it, captured. -/
theorem head?_ways_group (name : Name) (r : Pattern Name) (s : Text) :
    ((group name r).ways s).head? = (r.ways s).head?.map (Way.capture name) :=
  List.head?_map

/-- Behind a character of its class, the rest of a pattern is tried. -/
theorem ways_one_seq {c : Char} (hc : p c = true) (q : Pattern Name) (s : Text) :
    (seq (one p) q).ways (c :: s) = (q.ways s).map (Way.cons c) := by
  rw [ways, ways, if_pos hc, List.flatMap_singleton]
  rfl

/-- A sequence that starts with one character of a class does not match any other character. -/
theorem ways_one_seq_of_not {c : Char} (hc : ¬ p c = true) (q : Pattern Name) (s : Text) :
    (seq (one p) q).ways (c :: s) = [] := by
  rw [ways, ways, if_neg hc, List.flatMap_nil]

/-- A repetition gives back characters of its class only. -/
theorem settles_many (p : Char → Bool) :
    Settles p (many p : Pattern Name) fun s => ⟨s.takeWhile p, [], s.dropWhile p⟩ := by
  intro s
  induction s with
  | nil => exact ⟨[], rfl, by simp⟩
  | cons c s ih =>
    by_cases hc : p c = true
    · obtain ⟨others, hways, hothers⟩ := ih
      refine ⟨others.map (Way.cons c) ++ [Way.skip (c :: s)], ?_, ?_⟩
      · change manyWays p s = _ at hways
        simp [ways, manyWays, hc, hways, Way.cons]
      · intro way hway
        rcases List.mem_append.mp hway with h | h
        · obtain ⟨other, hother, rfl⟩ := List.mem_map.mp h
          exact hothers other hother
        · obtain rfl := List.mem_singleton.mp h
          exact hc
    · exact ⟨[], by simp [ways, manyWays, hc, Way.skip], by simp⟩

/-- A run takes all it can, and matches only if that is something. -/
theorem head?_ways_run (p : Char → Bool) (s : Text) :
    ((run p : Pattern Name).ways s).head? =
      if s.takeWhile p = [] then none else some ⟨s.takeWhile p, [], s.dropWhile p⟩ := by
  cases s with
  | nil => rfl
  | cons c s =>
    by_cases hc : p c = true
    · obtain ⟨others, hways, -⟩ := (settles_many p : Settles p (many p : Pattern Name) _) s
      rw [run, ways_one_seq hc, hways]
      simp [hc, Way.cons]
    · simp [run, ways_one_seq_of_not hc, hc]

/-- Making a group of what is settled keeps it settled, with the group captured. -/
theorem Settles.group (h : Settles p r pick) (name : Name) :
    Settles p (group name r) fun s => (pick s).capture name := by
  intro s
  obtain ⟨others, hways, hothers⟩ := h s
  refine ⟨others.map (Way.capture name), by rw [ways, hways, List.map_cons], ?_⟩
  intro way hway
  obtain ⟨other, hother, rfl⟩ := List.mem_map.mp hway
  exact hothers other hother

/-- Behind a pattern that settles, what follows is tried once. A matcher comes back to the pattern with
another try when what follows fails, but every other try hands over a character that what follows avoids.
-/
theorem ways_seq_of_settles (hr : Settles p r pick) (hq : Avoids p q) (s : Text) :
    (seq r q).ways s = (q.ways (pick s).rest).map (pick s).append := by
  obtain ⟨others, hways, hothers⟩ := hr s
  have hnone : (others.flatMap fun way => (q.ways way.rest).map way.append) = [] := by
    rw [List.flatMap_eq_nil_iff]
    intro way hway
    rw [hq way.rest (hothers way hway), List.map_nil]
  rw [ways, hways, List.flatMap_cons, hnone, List.append_nil]

/-- One character of a class avoids any class that has none of its characters. -/
theorem avoids_one {p' : Char → Bool} (h : ∀ c, p c = true → p' c = false) :
    Avoids p (one p' : Pattern Name) := by
  intro s hs
  cases s with
  | nil => rfl
  | cons c s => simp [ways, h c hs]

/-- A group avoids what is avoided in it. -/
theorem Avoids.group (h : Avoids p r) (name : Name) : Avoids p (group name r) := by
  intro s hs
  rw [ways, h s hs, List.map_nil]

/-- A sequence avoids what its first part avoids. -/
theorem Avoids.seq (h : Avoids p r) (q : Pattern Name) : Avoids p (seq r q) := by
  intro s hs
  rw [ways, h s hs, List.flatMap_nil]

/-- Where the first way takes nothing, it is left to what follows to match. -/
theorem Settles.avoids_seq {p' : Char → Bool} (hr : Settles p' r pick) (hq' : Avoids p' q)
    (hpick : ∀ s, startsWith p s = true → (pick s).rest = s) (hq : Avoids p q) :
    Avoids p (Pattern.seq r q) := by
  intro s hs
  rw [ways_seq_of_settles hr hq', hpick s hs, hq s hs, List.map_nil]

/-- Any number of characters of a class are matched longest first. -/
theorem strictlyGreedy_many (p : Char → Bool) : StrictlyGreedy (many p : Pattern Name) := by
  intro s
  induction s with
  | nil => exact List.pairwise_singleton _ _
  | cons c s ih =>
    rw [ways, manyWays]
    split
    · have hcons : ((manyWays p s).map (Way.cons c : Way Name → Way Name)).Pairwise
          fun way later => later.text.length < way.text.length :=
        List.pairwise_map.mpr (ih.imp Nat.succ_lt_succ)
      refine List.pairwise_append.mpr ⟨hcons, List.pairwise_singleton _ _, ?_⟩
      intro way hway skipped hskipped
      obtain ⟨fewer, -, rfl⟩ := List.mem_map.mp hway
      obtain rfl := List.mem_singleton.mp hskipped
      exact Nat.succ_pos _
    · exact List.pairwise_singleton _ _

/-- A group is matched longest first if what is in it is. -/
theorem StrictlyGreedy.group (h : StrictlyGreedy r) (name : Name) :
    StrictlyGreedy (group name r) :=
  fun s => List.pairwise_map.mpr (h s)

/-- One character in front of what is matched longest first is matched longest first with it. -/
theorem StrictlyGreedy.one_seq (p : Char → Bool) (h : StrictlyGreedy q) :
    StrictlyGreedy (seq (one p) q) := by
  intro s
  cases s with
  | nil => exact .nil
  | cons c s =>
    by_cases hc : p c = true
    · rw [ways_one_seq hc]
      exact List.pairwise_map.mpr ((h s).imp Nat.succ_lt_succ)
    · rw [ways_one_seq_of_not hc]
      exact .nil

/-- A run of characters of a class is matched longest first. -/
theorem strictlyGreedy_run (p : Char → Bool) : StrictlyGreedy (run p : Pattern Name) :=
  (strictlyGreedy_many p).one_seq p

/-- What follows a pattern that settles decides alone how long a match is. -/
theorem Settles.strictlyGreedy_seq (hr : Settles p r pick) (hq' : Avoids p q)
    (hq : StrictlyGreedy q) : StrictlyGreedy (seq r q) := by
  intro s
  rw [ways_seq_of_settles hr hq']
  refine List.pairwise_map.mpr ((hq (pick s).rest).imp ?_)
  intro longer shorter hlength
  simpa [Way.append] using hlength

/-- A match at the start of a text is what maximal munch takes if kinds of matches are tried in order:
it is of the first kind that fits, as long as that kind can be, and taken apart in the only way. -/
structure IsMunch (kinds : List (Name × Pattern Name)) (s : Text) (found : Found Name)
    (name : Name) (r : Pattern Name) : Prop where
  /-- The match starts the text. -/
  starts : found.text <+: s
  /-- The kind names the match. -/
  lastGroup_eq : found.lastGroup = some name
  /-- No kind that is tried before fits any start of the text. -/
  first_kind : ∃ before after, kinds = before ++ (name, r) :: after ∧
    ∀ kind ∈ before, ∀ text groups, text <+: s → ¬ kind.2.Fits text groups
  /-- No longer start of the text is of the kind. -/
  longest : ∀ text groups, text <+: s → r.Fits text groups → text.length ≤ found.text.length
  /-- The match is of the kind, with these captured parts and no others. -/
  unique : ∃ inner, found.groups = inner ++ [(name, found.text)] ∧
    ∀ groups, r.Fits found.text groups ↔ groups = inner

/-- The first way of alternatives is the first way of the first alternative that has any. -/
theorem exists_kind_of_head? {kinds : List (Name × Pattern Name)} {s : Text} {way : Way Name}
    (h : (kinds.flatMap fun kind => (group kind.1 kind.2).ways s).head? = some way) :
    ∃ before name r after others inner, kinds = before ++ (name, r) :: after ∧
      (∀ kind ∈ before, kind.2.ways s = []) ∧ r.ways s = inner :: others ∧
      way = inner.capture name := by
  induction kinds with
  | nil => simp at h
  | cons kind kinds ih =>
    rw [List.flatMap_cons, ways] at h
    cases hways : kind.2.ways s with
    | nil =>
      rw [hways, List.map_nil, List.nil_append] at h
      obtain ⟨before, name, r, after, others, inner, rfl, hbefore, hr, rfl⟩ := ih h
      refine ⟨kind :: before, name, r, after, others, inner, rfl, ?_, hr, rfl⟩
      exact List.forall_mem_cons.mpr ⟨hways, hbefore⟩
    | cons inner others =>
      rw [hways, List.map_cons, List.cons_append, List.head?_cons, Option.some.injEq] at h
      exact ⟨[], kind.1, kind.2, kinds, others, inner, rfl, by simp, hways, h.symm⟩

namespace StrictlyGreedy

variable {s : Text} {longest : Way Name} {others : List (Way Name)}

/-- Every other way to match is shorter than the one that is tried first. -/
theorem eq_or_length_lt (h : StrictlyGreedy r) (hways : r.ways s = longest :: others)
    {way : Way Name} (hway : way ∈ r.ways s) :
    way = longest ∨ way.text.length < longest.text.length := by
  have hlonger := h s
  rw [hways] at hway hlonger
  rcases List.mem_cons.mp hway with heq | hother
  · exact .inl heq
  · exact .inr ((List.pairwise_cons.mp hlonger).1 way hother)

/-- No start of the text that fits is longer than the first way. -/
theorem length_le (h : StrictlyGreedy r) (hways : r.ways s = longest :: others) {text : Text}
    {groups : List (Name × Text)} (htext : text <+: s) (hfits : r.Fits text groups) :
    text.length ≤ longest.text.length := by
  obtain ⟨rest, rfl⟩ := htext
  rcases h.eq_or_length_lt hways (mem_ways_of_fits hfits rest) with heq | hlt
  · exact Nat.le_of_eq (congrArg (·.text.length) heq)
  · exact Nat.le_of_lt hlt

/-- The text of the first way is taken apart in no other way. -/
theorem groups_eq (h : StrictlyGreedy r) (hways : r.ways s = longest :: others)
    {groups : List (Name × Text)} (hfits : r.Fits longest.text groups) :
    groups = longest.groups := by
  have hlongest : longest ∈ r.ways s := hways ▸ List.mem_cons_self
  have hway : ⟨longest.text, groups, longest.rest⟩ ∈ r.ways s :=
    mem_ways_iff.mpr ⟨(fits_of_mem_ways hlongest).1, hfits⟩
  rcases h.eq_or_length_lt hways hway with heq | hlt
  · exact congrArg (·.groups) heq
  · exact absurd hlt (Nat.lt_irrefl _)

end StrictlyGreedy

/-- Strictly greedy alternatives do maximal munch. -/
theorem isMunch_of_head? {kinds : List (Name × Pattern Name)}
    (hgreedy : ∀ kind ∈ kinds, StrictlyGreedy kind.2) {s : Text} {way : Way Name}
    (h : (kinds.flatMap fun kind => (group kind.1 kind.2).ways s).head? = some way)
    (position : Nat) : ∃ name r, IsMunch kinds s (way.found position) name r := by
  obtain ⟨before, name, r, after, others, longest, hkinds, hbefore, hways, rfl⟩ :=
    exists_kind_of_head? h
  have hr : StrictlyGreedy r := hgreedy (name, r) (by simp [hkinds])
  have hlongest : longest ∈ r.ways s := hways ▸ List.mem_cons_self
  obtain ⟨hsplit, hfits⟩ := fits_of_mem_ways hlongest
  have hnone : ∀ kind ∈ before, ∀ text groups, text <+: s → ¬ kind.2.Fits text groups := by
    rintro kind hkind text groups ⟨rest, rfl⟩ hkindFits
    have hmem := mem_ways_of_fits hkindFits rest
    rw [hbefore kind hkind] at hmem
    cases hmem
  exact ⟨name, r, {
    starts := ⟨longest.rest, hsplit⟩
    lastGroup_eq := by simp [Found.lastGroup, Way.found, Way.capture]
    first_kind := ⟨before, after, hkinds, hnone⟩
    longest := fun text groups htext hfits => hr.length_le hways htext hfits
    unique := ⟨longest.groups, rfl, fun groups =>
      ⟨fun hgroups => hr.groups_eq hways hgroups, fun heq => heq ▸ hfits⟩⟩ }⟩

end DiceSum.Pattern
