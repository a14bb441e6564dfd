import DiceSum.Proofs.Rendering.RoundTrip
import DiceSum.Proofs.Rolling.Answers
import DiceSum.Proofs.Text.Value

/-!
# Written forms are unambiguous

No two sums are written alike, whether or not the written form can be read back, and no two rolls have the
same explanation (`render_and_explain_inj`). Written forms are nested, and at every level the parts are
found again by a character that stands in none of them: a blank between terms, the letter of a die between
a count and its sides, a comma between values, a bracket behind them, a semicolon between rolled terms.
The total is what follows the last arrow; other arrows stand in front of subtotals.

A rolled constant shows only the value of its term. So an explanation tells rolls apart because rolling
gives a constant no other value (`holdsConstant_of_roll`).
-/

namespace DiceSum

/-- No two terms are written alike: a constant has no letter of a die, and dice have one, behind the
count. -/
theorem Term.render_injective : Function.Injective Term.render := by
  have hmark : ∀ n, 'd' ∉ Decimal.ofInt n := Decimal.notMem_ofInt rfl (by decide)
  intro s t h
  cases s with
  | dice count sides =>
    cases t with
    | dice count' sides' =>
      obtain ⟨hcount, hsides⟩ := eq_of_append_cons_eq (hmark count) (hmark count') h
      rw [Decimal.ofInt_injective hcount, Decimal.ofInt_injective hsides]
    | constant value =>
      have hmem : 'd' ∈ (Term.dice count sides).render := by simp [Term.render]
      rw [h] at hmem
      exact absurd hmem (hmark value)
  | constant value =>
    cases t with
    | dice count sides =>
      have hmem : 'd' ∈ (Term.dice count sides).render := by simp [Term.render]
      rw [← h] at hmem
      exact absurd hmem (hmark value)
    | constant value' => rw [Decimal.ofInt_injective h]

/-- A written term has no characters but those of integers and the letter of a die. -/
theorem Term.notMem_render {c : Char} (hdigit : c.isDigit = false) (hsign : c ≠ '-') (hmark : c ≠ 'd')
    (term : Term) : c ∉ term.render := by
  have hnumber := Decimal.notMem_ofInt hdigit hsign
  cases term with
  | dice count sides =>
    rw [Term.render, List.mem_append, not_or]
    exact ⟨hnumber count, List.not_mem_cons_of_ne_of_not_mem hmark (hnumber sides)⟩
  | constant value => exact hnumber value

/-- Every term has a rendering. -/
theorem Term.render_ne_nil (term : Term) : term.render ≠ [] := by
  cases term with
  | dice count sides => exact List.append_ne_nil_of_left_ne_nil (Decimal.ofInt_ne_nil count) _
  | constant value => exact Decimal.ofInt_ne_nil value

/-- No two sums are written alike: no term has a blank in it. -/
theorem render_injective : Function.Injective render := by
  have hparts : ∀ terms : List Term, ∀ part ∈ terms.map Term.render, part ≠ [] ∧ ' ' ∉ part := by
    intro terms part hpart
    obtain ⟨term, -, rfl⟩ := List.mem_map.mp hpart
    exact ⟨term.render_ne_nil, term.notMem_render rfl (by decide) (by decide)⟩
  intro s t h
  exact Term.render_injective.list_map (joinWith_inj (hparts s) (hparts t) h)

/-- Values between brackets have no characters but those of integers, commas and blanks. -/
theorem notMem_joined_values {c : Char} (hdigit : c.isDigit = false) (hsign : c ≠ '-')
    (hcomma : c ∉ ", ".toList) (values : List Int) :
    c ∉ joinWith ", ".toList (values.map Decimal.ofInt) := by
  apply notMem_joinWith hcomma
  intro part hpart
  obtain ⟨value, -, rfl⟩ := List.mem_map.mp hpart
  exact Decimal.notMem_ofInt hdigit hsign value

/-- No two lists of values are written alike, whatever is written behind them. -/
theorem renderValues_inj {values values' : List Int} {rest more : Text}
    (h : renderValues values ++ rest = renderValues values' ++ more) : values = values' := by
  have hparts : ∀ values : List Int, ∀ part ∈ values.map Decimal.ofInt, part ≠ [] ∧ ',' ∉ part := by
    intro values part hpart
    obtain ⟨value, -, rfl⟩ := List.mem_map.mp hpart
    exact ⟨Decimal.ofInt_ne_nil value, Decimal.notMem_ofInt rfl (by decide) value⟩
  have hclose : ∀ values : List Int, ']' ∉ joinWith ", ".toList (values.map Decimal.ofInt) :=
    notMem_joined_values rfl (by decide) (by decide)
  have hinside : joinWith ", ".toList (values.map Decimal.ofInt) ++ ']' :: rest =
      joinWith ", ".toList (values'.map Decimal.ofInt) ++ ']' :: more := by
    simpa [renderValues] using h
  obtain ⟨hjoined, -⟩ := eq_of_append_cons_eq (hclose values) (hclose values') hinside
  exact Decimal.ofInt_injective.list_map (joinWith_inj (hparts values) (hparts values') hjoined)

/-- Whether a rolled constant has the value of its term; dice may have any values. -/
def Rolled.HoldsConstant (rolled : Rolled) : Prop :=
  match rolled.term with
  | .dice _ _ => True
  | .constant value => rolled.values = [value]

/-- Rolled dice are written as their term, a colon, and their values with what follows them. -/
theorem Rolled.render_dice (count sides : Int) (values : List Int) :
    Rolled.render { term := .dice count sides, values } =
      (Term.dice count sides).render ++ ':' :: (" rolls ".toList ++ (renderValues values ++
        (" => ".toList ++ Decimal.ofInt (Rolled.subtotal { term := .dice count sides, values })))) := by
  simp [Rolled.render]

/-- A rolled constant has no letter of a die, and rolled dice have one. -/
theorem Rolled.render_dice_ne_signed (count sides value : Int) (values : List Int) :
    Rolled.render { term := .dice count sides, values } ≠ Decimal.signed value := by
  intro h
  have hmem : 'd' ∈ Rolled.render { term := .dice count sides, values } := by
    simp [Rolled.render_dice, Term.render]
  rw [h] at hmem
  exact absurd hmem (Decimal.notMem_signed rfl (by decide) (by decide) value)

/-- No two rolled terms are written alike. -/
theorem Rolled.render_inj {first second : Rolled} (hfirst : first.HoldsConstant)
    (hsecond : second.HoldsConstant) (h : first.render = second.render) : first = second := by
  have hcolon : ∀ term : Term, ':' ∉ term.render := Term.notMem_render rfl (by decide) (by decide)
  obtain ⟨term, values⟩ := first
  obtain ⟨term', values'⟩ := second
  cases term with
  | dice count sides =>
    cases term' with
    | dice count' sides' =>
      rw [Rolled.render_dice, Rolled.render_dice] at h
      obtain ⟨hterm, hrest⟩ := eq_of_append_cons_eq (hcolon _) (hcolon _) h
      rw [Term.render_injective hterm, renderValues_inj (List.append_cancel_left hrest)]
    | constant value => exact absurd h (Rolled.render_dice_ne_signed count sides value values)
  | constant value =>
    cases term' with
    | dice count sides => exact absurd h.symm (Rolled.render_dice_ne_signed count sides value values')
    | constant value' =>
      obtain rfl : values = [value] := hfirst
      obtain rfl : values' = [value'] := hsecond
      rw [Decimal.signed_injective h]

/-- A rolled term has no semicolon in it, and is not empty. -/
theorem Rolled.semicolon_notMem_render (rolled : Rolled) : rolled.render ≠ [] ∧ ';' ∉ rolled.render := by
  have hnumber : ∀ n, ';' ∉ Decimal.ofInt n := Decimal.notMem_ofInt rfl (by decide)
  obtain ⟨term, values⟩ := rolled
  cases term with
  | dice count sides =>
    have hterm : ';' ∉ (Term.dice count sides).render :=
      Term.notMem_render rfl (by decide) (by decide) _
    have hvalues : ';' ∉ joinWith ", ".toList (values.map Decimal.ofInt) :=
      notMem_joined_values rfl (by decide) (by decide) values
    rw [Rolled.render_dice]
    refine ⟨by simp, ?_⟩
    simpa [renderValues, hterm, hnumber] using hvalues
  | constant value =>
    refine ⟨?_, Decimal.notMem_signed rfl (by decide) (by decide) value⟩
    cases value with
    | ofNat n => exact List.cons_ne_nil _ _
    | negSucc n => exact List.cons_ne_nil _ _

/-- Rolled terms that are written alike, one after another, are the same. -/
theorem Rolled.map_render_inj {rolls others : List Rolled}
    (hrolls : ∀ rolled ∈ rolls, rolled.HoldsConstant)
    (hothers : ∀ rolled ∈ others, rolled.HoldsConstant)
    (h : rolls.map Rolled.render = others.map Rolled.render) : rolls = others := by
  induction rolls generalizing others with
  | nil => exact (List.map_eq_nil_iff.mp h.symm).symm
  | cons rolled rest ih =>
    cases others with
    | nil => cases h
    | cons other more =>
      rw [List.forall_mem_cons] at hrolls hothers
      obtain ⟨hfirst, hrest⟩ := List.cons.inj h
      rw [Rolled.render_inj hrolls.1 hothers.1 hfirst, ih hrolls.2 hothers.2 hrest]

/-- No two rolls have the same explanation, if their constants have the values of their terms. -/
theorem explain_inj {rolls others : List Rolled} (hrolls : ∀ rolled ∈ rolls, rolled.HoldsConstant)
    (hothers : ∀ rolled ∈ others, rolled.HoldsConstant) (h : explain rolls = explain others) :
    rolls = others := by
  have hparts : ∀ rolls : List Rolled, ∀ part ∈ rolls.map Rolled.render, part ≠ [] ∧ ';' ∉ part := by
    intro rolls part hpart
    obtain ⟨rolled, -, rfl⟩ := List.mem_map.mp hpart
    exact rolled.semicolon_notMem_render
  have harrow : ∀ rolls : List Rolled, '>' ∉ ' ' :: Decimal.ofInt (total rolls) := by
    intro rolls
    exact List.not_mem_cons_of_ne_of_not_mem (by decide) (Decimal.notMem_ofInt rfl (by decide) _)
  have hsplit : ∀ rolls : List Rolled, explain rolls =
      (joinWith "; ".toList (rolls.map Rolled.render) ++ " =".toList) ++
        '>' :: ' ' :: Decimal.ofInt (total rolls) := by
    intro rolls
    simp [explain]
  rw [hsplit, hsplit] at h
  obtain ⟨hjoined, -⟩ := eq_of_append_cons_eq_last (harrow rolls) (harrow others) h
  apply Rolled.map_render_inj hrolls hothers
  exact joinWith_inj (hparts rolls) (hparts others) (List.append_cancel_right hjoined)

variable {σ σ' : Type} {draw : Int → Drawing σ Int} {draw' : Int → Drawing σ' Int}

/-- Rolling gives a constant the value of its term, whatever the source answers. -/
theorem Term.holdsConstant_of_roll {term : Term} {rolled : Rolled} {before after : σ}
    (h : (term.roll draw).run.run before = (.ok rolled, after)) : rolled.HoldsConstant := by
  cases term with
  | constant value =>
    obtain ⟨hrolled, -⟩ := Prod.mk.inj h
    obtain rfl := Except.ok.inj hrolled
    rfl
  | dice count sides =>
    obtain ⟨faces, between, -, hdone⟩ := run_bind_eq_ok_iff.mp h
    obtain ⟨hrolled, -⟩ := Prod.mk.inj hdone
    obtain rfl := Except.ok.inj hrolled
    trivial

/-- Rolling gives all constants of a sum the values of their terms. -/
theorem holdsConstant_of_roll {terms : List Term} {rolls : List Rolled} {before after : σ}
    (h : (roll draw terms).run.run before = (.ok rolls, after)) :
    ∀ rolled ∈ rolls, rolled.HoldsConstant := by
  induction terms generalizing rolls before after with
  | nil =>
    obtain ⟨hrolls, -⟩ := Prod.mk.inj h
    obtain rfl := Except.ok.inj hrolls
    exact List.forall_mem_nil _
  | cons term rest ih =>
    rw [roll, List.mapM_cons] at h
    obtain ⟨rolled, between, hfirst, hmore⟩ := run_bind_eq_ok_iff.mp h
    obtain ⟨more, last, hrest, hdone⟩ := run_bind_eq_ok_iff.mp hmore
    obtain ⟨hrolls, -⟩ := Prod.mk.inj hdone
    obtain rfl := Except.ok.inj hrolls
    exact List.forall_mem_cons.mpr ⟨Term.holdsConstant_of_roll hfirst, ih hrest⟩

/-- Sums that are written alike are the same sum, even if the written form cannot be read back. Rolls of any
two sums, from any two sources, that have the same explanation have the same terms with the same values. -/
theorem render_and_explain_inj :
    Function.Injective render ∧
    ∀ (s t : List Term) (before after : σ) (before' after' : σ') (x y : List Rolled),
      (roll draw s).run.run before = (.ok x, after) →
      (roll draw' t).run.run before' = (.ok y, after') → explain x = explain y → x = y := by
  refine ⟨render_injective, ?_⟩
  intro s t before after before' after' x y hx hy h
  exact explain_inj (holdsConstant_of_roll hx) (holdsConstant_of_roll hy) h

/-- Two scripts that lead to the explanation `-2d6: rolls [-4, -6] => -10; +3 => -7` have shown the same. -/
theorem render_and_explain_inj_scripts :
    ∃ x y after after',
      (roll Source.draw [.dice (-2) 6, .constant 3]).run.run (.script ⟨#[3, 5], 0⟩) = (.ok x, after) ∧
      (roll Source.draw [.dice (-2) 6, .constant 3]).run.run (.script ⟨#[9, 11], 0⟩) =
        (.ok y, after') ∧
      explain x = "-2d6: rolls [-4, -6] => -10; +3 => -7".toList ∧ explain y = explain x ∧ x = y := by
  have hx : (roll Source.draw [.dice (-2) 6, .constant 3]).run.run (.script ⟨#[3, 5], 0⟩) =
      (.ok [⟨.dice (-2) 6, [-4, -6]⟩, ⟨.constant 3, [3]⟩], .script ⟨#[3, 5], 2⟩) := rfl
  have hy : (roll Source.draw [.dice (-2) 6, .constant 3]).run.run (.script ⟨#[9, 11], 0⟩) =
      (.ok [⟨.dice (-2) 6, [-4, -6]⟩, ⟨.constant 3, [3]⟩], .script ⟨#[9, 11], 2⟩) := rfl
  have hshown : explain [⟨.dice (-2) 6, [-4, -6]⟩, ⟨.constant 3, [3]⟩] =
      "-2d6: rolls [-4, -6] => -10; +3 => -7".toList := by
    decide +kernel
  exact ⟨_, _, _, _, hx, hy, hshown, rfl, render_and_explain_inj.2 _ _ _ _ _ _ _ _ hx hy rfl⟩

end DiceSum
