import DiceSum.Proofs.Text.Run

/-!
# Patterns and the ways to match them

A pattern is matched at the start of a text by trying. An alternative is tried before the ones behind
it, a repetition takes all it can and then, one by one, gives characters back, and what may be missing
is tried before it is left out. `Pattern.ways` lists all ways to match in the order in which they are
tried, and the match is the first of them. `Pattern.findAll` looks for matches from left to right: it
starts each search where the last match ended, and it moves on by a character where nothing matches.

`Pattern.Fits` says which texts a pattern describes, and with which captured parts, without any order.
The main statements are `mem_ways_iff`, the ways are exactly the splits of the text whose first part
fits, and `ways_seq_of_settles`, a repetition need not be tried again if what follows it cannot start
with a character that it would give back.
-/

namespace DiceSum

/-- A pattern of texts. It names the parts of a text that it captures. -/
inductive Pattern (Name : Type) where
  /-- One character of a class. -/
  | one (p : Char → Bool)
  /-- Any number of characters of a class, rather more than fewer. -/
  | many (p : Char → Bool)
  /-- Something that may be missing, rather there than not. -/
  | opt (r : Pattern Name)
  /-- One pattern behind the other. -/
  | seq (first second : Pattern Name)
  /-- One of two patterns, rather the first. -/
  | alt (first second : Pattern Name)
  /-- A pattern whose text is captured. -/
  | group (name : Name) (r : Pattern Name)

/-- One way to match a pattern at the start of a text. -/
structure Way (Name : Type) where
  /-- The characters that are matched. -/
  text : Text
  /-- The captured parts, in the order in which they end. -/
  groups : List (Name × Text)
  /-- What is left of the text. -/
  rest : Text
deriving DecidableEq

/-- A match in a text. -/
structure Found (Name : Type) where
  /-- The number of characters before the match. -/
  start : Nat
  /-- The characters that are matched. -/
  text : Text
  /-- The captured parts, in the order in which they end. -/
  groups : List (Name × Text)
deriving DecidableEq

variable {Name : Type}

/-- The captured part that ends last. -/
def Found.lastGroup (found : Found Name) : Option Name :=
  found.groups.getLast?.map Prod.fst

namespace Way

/-- Matching nothing. -/
def skip (s : Text) : Way Name :=
  ⟨[], [], s⟩

/-- One character more in front. -/
def cons (c : Char) (way : Way Name) : Way Name :=
  { way with text := c :: way.text }

/-- One way, and another one behind it. -/
def append (way after : Way Name) : Way Name :=
  ⟨way.text ++ after.text, way.groups ++ after.groups, after.rest⟩

/-- Captures what is matched. -/
def capture (name : Name) (way : Way Name) : Way Name :=
  { way with groups := way.groups ++ [(name, way.text)] }

/-- A way to match at a position. -/
def found (position : Nat) (way : Way Name) : Found Name :=
  ⟨position, way.text, way.groups⟩

end Way

namespace Pattern

/-- The ways to match characters of a class, from more to fewer. -/
def manyWays (p : Char → Bool) : Text → List (Way Name)
  | [] => [Way.skip []]
  | c :: s =>
    if p c then (manyWays p s).map (Way.cons c) ++ [Way.skip (c :: s)] else [Way.skip (c :: s)]

/-- All ways to match a pattern at the start of a text, in the order in which they are tried. -/
def ways : Pattern Name → Text → List (Way Name)
  | one _, [] => []
  | one p, c :: s => if p c then [Way.cons c (Way.skip s)] else []
  | many p, s => manyWays p s
  | opt r, s => ways r s ++ [Way.skip s]
  | seq r q, s => (ways r s).flatMap fun way => (ways q way.rest).map way.append
  | alt r q, s => ways r s ++ ways q s
  | group name r, s => (ways r s).map (Way.capture name)

/-- One character of a class or more. -/
def run (p : Char → Bool) : Pattern Name :=
  seq (one p) (many p)

/-- A text is one that the pattern describes, and these are the parts of it that are captured. -/
def Fits : Pattern Name → Text → List (Name × Text) → Prop
  | one p, text, groups => (∃ c, p c = true ∧ text = [c]) ∧ groups = []
  | many p, text, groups => text.all p = true ∧ groups = []
  | opt r, text, groups => Fits r text groups ∨ text = [] ∧ groups = []
  | seq r q, text, groups =>
    ∃ text₁ groups₁ text₂ groups₂, text = text₁ ++ text₂ ∧ groups = groups₁ ++ groups₂ ∧
      Fits r text₁ groups₁ ∧ Fits q text₂ groups₂
  | alt r q, text, groups => Fits r text groups ∨ Fits q text groups
  | group name r, text, groups => ∃ inner, groups = inner ++ [(name, text)] ∧ Fits r text inner

section Ways

variable {p : Char → Bool} {r : Pattern Name} {s text : Text} {groups : List (Name × Text)}
  {way : Way Name}

/-- Taking nothing is a way to match any number of characters. -/
theorem skip_mem_manyWays (p : Char → Bool) (s : Text) :
    (Way.skip s : Way Name) ∈ manyWays p s := by
  cases s with
  | nil => simp [manyWays]
  | cons c s => by_cases hc : p c = true <;> simp [manyWays, hc]

/-- Taking characters of a class in front of anything is a way to match any number of them. -/
theorem mem_manyWays_of_all (h : text.all p = true) (rest : Text) :
    (⟨text, [], rest⟩ : Way Name) ∈ manyWays p (text ++ rest) := by
  induction text with
  | nil => exact skip_mem_manyWays p rest
  | cons c text ih =>
    obtain ⟨hc, htext⟩ := by simpa only [List.all_cons, Bool.and_eq_true] using h
    rw [List.cons_append, manyWays, if_pos hc]
    exact List.mem_append_left _ (List.mem_map.mpr ⟨⟨text, [], rest⟩, ih htext, rfl⟩)

/-- A way to match any number of characters takes characters of the class off the front. -/
theorem fits_of_mem_manyWays (h : way ∈ manyWays p s) :
    way.text ++ way.rest = s ∧ way.text.all p = true ∧ way.groups = [] := by
  induction s generalizing way with
  | nil =>
    obtain rfl := List.mem_singleton.mp h
    exact ⟨rfl, rfl, rfl⟩
  | cons c s ih =>
    rw [manyWays] at h
    split at h
    · rename_i hc
      rcases List.mem_append.mp h with h | h
      · obtain ⟨fewer, hfewer, rfl⟩ := List.mem_map.mp h
        obtain ⟨htext, hall, hgroups⟩ := ih hfewer
        exact ⟨congrArg (c :: ·) htext, by simp [Way.cons, hc, hall], hgroups⟩
      · obtain rfl := List.mem_singleton.mp h
        exact ⟨rfl, rfl, rfl⟩
    · obtain rfl := List.mem_singleton.mp h
      exact ⟨rfl, rfl, rfl⟩

/-- Every way splits the text, and its first part fits the pattern. -/
theorem fits_of_mem_ways (h : way ∈ r.ways s) :
    way.text ++ way.rest = s ∧ r.Fits way.text way.groups := by
  induction r generalizing s way with
  | one p =>
    cases s with
    | nil => cases h
    | cons c s =>
      rw [ways] at h
      split at h
      · rename_i hc
        obtain rfl := List.mem_singleton.mp h
        exact ⟨rfl, ⟨c, hc, rfl⟩, rfl⟩
      · cases h
  | many p => exact fits_of_mem_manyWays h
  | opt r ih =>
    rcases List.mem_append.mp h with h | h
    · exact ⟨(ih h).1, .inl (ih h).2⟩
    · obtain rfl := List.mem_singleton.mp h
      exact ⟨rfl, .inr ⟨rfl, rfl⟩⟩
  | seq r q ihr ihq =>
    obtain ⟨first, hfirst, h⟩ := List.mem_flatMap.mp h
    obtain ⟨after, hafter, rfl⟩ := List.mem_map.mp h
    obtain ⟨hsplit, hfits⟩ := ihr hfirst
    obtain ⟨hsplit', hfits'⟩ := ihq hafter
    refine ⟨?_, _, _, _, _, rfl, rfl, hfits, hfits'⟩
    rw [Way.append, List.append_assoc, hsplit', hsplit]
  | alt r q ihr ihq =>
    rcases List.mem_append.mp h with h | h
    · exact ⟨(ihr h).1, .inl (ihr h).2⟩
    · exact ⟨(ihq h).1, .inr (ihq h).2⟩
  | group name r ih =>
    obtain ⟨inner, hinner, rfl⟩ := List.mem_map.mp h
    exact ⟨(ih hinner).1, _, rfl, (ih hinner).2⟩

/-- Wherever a text stands that fits a pattern, it is one of the ways to match it. -/
theorem mem_ways_of_fits (h : r.Fits text groups) (rest : Text) :
    ⟨text, groups, rest⟩ ∈ r.ways (text ++ rest) := by
  induction r generalizing text groups rest with
  | one p =>
    obtain ⟨⟨c, hc, rfl⟩, rfl⟩ := h
    rw [List.singleton_append, ways, if_pos hc]
    exact List.mem_singleton.mpr rfl
  | many p =>
    obtain ⟨hall, rfl⟩ := h
    exact mem_manyWays_of_all hall rest
  | opt r ih =>
    rcases h with h | ⟨rfl, rfl⟩
    · exact List.mem_append_left _ (ih h rest)
    · exact List.mem_append_right _ (List.mem_singleton.mpr rfl)
  | seq r q ihr ihq =>
    obtain ⟨text₁, groups₁, text₂, groups₂, rfl, rfl, hr, hq⟩ := h
    have hfirst : ⟨text₁, groups₁, text₂ ++ rest⟩ ∈ r.ways (text₁ ++ text₂ ++ rest) := by
      rw [List.append_assoc]
      exact ihr hr (text₂ ++ rest)
    exact List.mem_flatMap.mpr ⟨_, hfirst, List.mem_map.mpr ⟨_, ihq hq rest, rfl⟩⟩
  | alt r q ihr ihq =>
    rcases h with h | h
    · exact List.mem_append_left _ (ihr h rest)
    · exact List.mem_append_right _ (ihq h rest)
  | group name r ih =>
    obtain ⟨inner, rfl, h⟩ := h
    exact List.mem_map.mpr ⟨_, ih h rest, rfl⟩

/-- The ways to match a pattern are the splits of the text whose first part fits the pattern. -/
theorem mem_ways_iff :
    way ∈ r.ways s ↔ way.text ++ way.rest = s ∧ r.Fits way.text way.groups := by
  constructor
  · exact fits_of_mem_ways
  · rintro ⟨rfl, h⟩
    exact mem_ways_of_fits h way.rest

end Ways

section Search

variable {r : Pattern Name} {moveOn : Bool} {s : Text} {way : Way Name}

/-- The match at the start of a text: the first way that is tried, or, where the search has to move
on, the first one that takes a character. -/
def first (r : Pattern Name) (moveOn : Bool) (s : Text) : Option (Way Name) :=
  (r.ways s).find? fun way => !(moveOn && way.text.isEmpty)

/-- What a first match takes and what it leaves make up the text. -/
theorem text_append_rest_of_first (h : r.first moveOn s = some way) :
    way.text ++ way.rest = s :=
  (fits_of_mem_ways (List.mem_of_find?_eq_some h)).1

/-- There is less to search behind a match: it takes a character, or the next one has to. -/
theorem length_rest_of_first (h : r.first moveOn s = some way) :
    2 * way.rest.length + (if way.text.isEmpty then 0 else 1) <
      2 * s.length + (if moveOn then 0 else 1) := by
  have hlength := congrArg List.length (text_append_rest_of_first h)
  have hmoves := List.find?_some h
  rw [List.length_append] at hlength
  cases htext : way.text with
  | nil =>
    have hmoveOn : moveOn = false := by simpa [htext] using hmoves
    rw [htext, List.length_nil] at hlength
    simp only [hmoveOn, List.isEmpty_nil, if_true, Bool.false_eq_true, if_false]
    omega
  | cons c text =>
    rw [htext, List.length_cons] at hlength
    simp only [List.isEmpty_cons, Bool.false_eq_true, if_false]
    omega

/-- The matches of a pattern in a text from a position on. Where nothing matches, the search goes on
behind the next character, and behind an empty match another match may start but not an empty one. -/
def findFrom (r : Pattern Name) (position : Nat) (moveOn : Bool) (s : Text) : List (Found Name) :=
  match h : r.first moveOn s with
  | some way =>
    way.found position :: findFrom r (position + way.text.length) way.text.isEmpty way.rest
  | none =>
    match s with
    | [] => []
    | _ :: s => findFrom r (position + 1) false s
termination_by 2 * s.length + (if moveOn then 0 else 1)
decreasing_by
  · exact length_rest_of_first h
  · simp only [List.length_cons, if_false]
    omega

/-- All matches of a pattern in a text, from left to right. -/
def findAll (r : Pattern Name) (s : Text) : List (Found Name) :=
  findFrom r 0 false s

/-- Where the search need not move on, the match is the first way of all. -/
theorem first_false (r : Pattern Name) (s : Text) : r.first false s = (r.ways s).head? := by
  rw [first]
  cases r.ways s <;> rfl

/-- A search goes on behind a match, and need take a character there only if the match took none. -/
theorem findFrom_of_first (h : r.first moveOn s = some way) (position : Nat) :
    findFrom r position moveOn s =
      way.found position :: findFrom r (position + way.text.length) way.text.isEmpty way.rest := by
  rw [findFrom]
  split
  · rename_i found hfound
    obtain rfl := Option.some.inj (h.symm.trans hfound)
    rfl
  · rename_i hnone
    rw [h] at hnone
    cases hnone

/-- A search in an empty text finds nothing if the pattern needs a character. -/
theorem findFrom_nil (h : r.ways [] = []) (position : Nat) :
    findFrom r position moveOn [] = [] := by
  rw [findFrom]
  split
  · rename_i way hway
    simp [first, h] at hway
  · rfl

end Search

end Pattern

end DiceSum
