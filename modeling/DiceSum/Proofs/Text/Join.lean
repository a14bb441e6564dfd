import DiceSum.Proofs.Text.Run

/-!
# Joined texts

Joining texts puts a separator in front of every text but the first. So a joined text is its first text
and a run of separated ones.

A character that stands in no part of a text tells where the parts end. If a separator starts with such a
character, the texts that were joined can be found again (`joinWith_inj`).
-/

namespace DiceSum

/-- A joined text is its first text and the others, each behind a separator. -/
theorem joinWith_cons (separator text : Text) (rest : List Text) :
    joinWith separator (text :: rest) = text ++ rest.flatMap (separator ++ ·) := by
  induction rest generalizing text with
  | nil => simp [joinWith]
  | cons next rest ih =>
    change text ++ separator ++ joinWith separator (next :: rest) = _
    rw [ih, List.flatMap_cons, List.append_assoc, List.append_assoc]

/-- A joined text has each of its texts in it. -/
theorem exists_joinWith_eq_append {text : Text} {texts : List Text} (h : text ∈ texts)
    (separator : Text) : ∃ before after, joinWith separator texts = before ++ text ++ after := by
  obtain ⟨front, back, rfl⟩ := List.append_of_mem h
  cases front with
  | nil => exact ⟨[], back.flatMap (separator ++ ·), by simp [joinWith_cons]⟩
  | cons first front =>
    refine ⟨first ++ front.flatMap (separator ++ ·) ++ separator, back.flatMap (separator ++ ·), ?_⟩
    simp [joinWith_cons]

variable {c : Char} {s t rest more : Text}

/-- Two texts that a character parts for the first time have the same parts. -/
theorem eq_of_append_cons_eq (hs : c ∉ s) (ht : c ∉ t) (h : s ++ c :: rest = t ++ c :: more) :
    s = t ∧ rest = more := by
  have hother : ∀ part : Text, c ∉ part → part.all (· != c) = true := by
    intro part hpart
    rw [List.all_eq_true]
    intro d hd
    exact bne_iff_ne.mpr fun heq => hpart (heq ▸ hd)
  have hstop : ∀ behind : Text, startsWith (· != c) (c :: behind) = false := by
    intro behind
    simp
  have hfront := congrArg (List.takeWhile (· != c)) h
  have hback := congrArg (List.dropWhile (· != c)) h
  rw [takeWhile_run (hother s hs) (hstop rest), takeWhile_run (hother t ht) (hstop more)] at hfront
  rw [dropWhile_run (hother s hs) (hstop rest), dropWhile_run (hother t ht) (hstop more)] at hback
  exact ⟨hfront, (List.cons.inj hback).2⟩

/-- Two texts that a character parts for the last time have the same parts. -/
theorem eq_of_append_cons_eq_last (hrest : c ∉ rest) (hmore : c ∉ more)
    (h : s ++ c :: rest = t ++ c :: more) : s = t ∧ rest = more := by
  have hreverse : rest.reverse ++ c :: s.reverse = more.reverse ++ c :: t.reverse := by
    have h := congrArg List.reverse h
    simpa using h
  obtain ⟨hback, hfront⟩ := eq_of_append_cons_eq (by simpa using hrest) (by simpa using hmore) hreverse
  exact ⟨List.reverse_inj.mp hfront, List.reverse_inj.mp hback⟩

/-- A first text and separated ones are found again if the separator starts with a character that is in
none of them. -/
theorem eq_of_separated_eq {tail : Text} {xs ys : List Text} (hs : c ∉ s) (ht : c ∉ t)
    (hxs : ∀ x ∈ xs, c ∉ x) (hys : ∀ y ∈ ys, c ∉ y)
    (h : s ++ xs.flatMap (c :: tail ++ ·) = t ++ ys.flatMap (c :: tail ++ ·)) : s = t ∧ xs = ys := by
  induction xs generalizing s t ys with
  | nil =>
    cases ys with
    | nil => exact ⟨by simpa using h, rfl⟩
    | cons y ys =>
      rw [List.flatMap_nil, List.append_nil] at h
      exact absurd (by simp [h]) hs
  | cons x xs ih =>
    cases ys with
    | nil =>
      rw [List.flatMap_nil, List.append_nil] at h
      exact absurd (by simp [← h]) ht
    | cons y ys =>
      rw [List.forall_mem_cons] at hxs hys
      rw [List.flatMap_cons, List.flatMap_cons, List.append_assoc, List.append_assoc,
        List.cons_append, List.cons_append] at h
      obtain ⟨hfirst, hbehind⟩ := eq_of_append_cons_eq hs ht h
      obtain ⟨hnext, hothers⟩ := ih hxs.1 hys.1 hxs.2 hys.2 (List.append_cancel_left hbehind)
      exact ⟨hfirst, by rw [hnext, hothers]⟩

/-- Texts that are not empty are found again in a joined text if the separator starts with a character that
is in none of them. -/
theorem joinWith_inj {tail : Text} {xs ys : List Text} (hxs : ∀ x ∈ xs, x ≠ [] ∧ c ∉ x)
    (hys : ∀ y ∈ ys, y ≠ [] ∧ c ∉ y) (h : joinWith (c :: tail) xs = joinWith (c :: tail) ys) :
    xs = ys := by
  have hempty : ∀ x (others : List Text), x ≠ [] → joinWith (c :: tail) (x :: others) ≠ [] := by
    intro x others hx
    rw [joinWith_cons]
    exact List.append_ne_nil_of_left_ne_nil hx _
  cases xs with
  | nil =>
    cases ys with
    | nil => rfl
    | cons y ys => exact absurd h.symm (hempty y ys (hys y List.mem_cons_self).1)
  | cons x xs =>
    cases ys with
    | nil => exact absurd h (hempty x xs (hxs x List.mem_cons_self).1)
    | cons y ys =>
      rw [List.forall_mem_cons] at hxs hys
      rw [joinWith_cons, joinWith_cons] at h
      obtain ⟨hfirst, hothers⟩ := eq_of_separated_eq hxs.1.2 hys.1.2 (fun x hx => (hxs.2 x hx).2)
        (fun y hy => (hys.2 y hy).2) h
      rw [hfirst, hothers]

/-- A character in a joined text is one of the separator or of a text. -/
theorem notMem_joinWith {separator : Text} {xs : List Text} (hseparator : c ∉ separator)
    (hxs : ∀ x ∈ xs, c ∉ x) : c ∉ joinWith separator xs := by
  cases xs with
  | nil => exact List.not_mem_nil
  | cons x xs =>
    rw [List.forall_mem_cons] at hxs
    rw [joinWith_cons]
    simp only [List.mem_append, List.mem_flatMap, not_or, not_exists, not_and]
    exact ⟨hxs.1, fun y hy => ⟨hseparator, hxs.2 y hy⟩⟩

end DiceSum
