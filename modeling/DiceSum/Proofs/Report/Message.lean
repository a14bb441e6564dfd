import DiceSum.Proofs.Report.Answer
import DiceSum.Proofs.Text.Join

/-!
# What a message gives away

A service hands on nothing of a refusal but its message, in which the token stands as it was written, with
quotes or anything else that a message is made of. Still the refusal can be found again in its message
(`Refusal.message_injective`). It starts with the name of its kind. From its end, the position goes back to
the last blank, as a number has no blanks, and the token is what is left between two fixed texts. So two
requests with one message were refused alike (`refused_alike_of_message_eq`).
-/

namespace DiceSum

/-- In front of a fixed text, a token and the position that follows it are found again. -/
theorem eq_of_positioned_eq {s t tail : Text} {m n : Nat}
    (h : s ++ "' at position ".toList ++ Decimal.ofNat m ++ tail =
      t ++ "' at position ".toList ++ Decimal.ofNat n ++ tail) : s = t ∧ m = n := by
  have hblank (k : Nat) : ' ' ∉ Decimal.ofNat k := Decimal.notMem_ofNat rfl k
  have hsplit (r : Text) (k : Nat) : r ++ "' at position ".toList ++ Decimal.ofNat k =
      r ++ "' at position".toList ++ ' ' :: Decimal.ofNat k := by
    rw [show "' at position ".toList = "' at position".toList ++ [' '] from rfl]
    simp only [List.append_assoc, List.singleton_append]
  have hfront := List.append_cancel_right h
  rw [hsplit, hsplit] at hfront
  obtain ⟨htoken, hposition⟩ := eq_of_append_cons_eq_last (hblank m) (hblank n) hfront
  exact ⟨List.append_cancel_right htoken, Decimal.ofNat_injective hposition⟩

/-- Fields differ in their names. -/
theorem Field.name_injective : Function.Injective Field.name := by
  intro field other h
  cases field <;> cases other <;> revert h <;> decide

/-- The name of a field is a single word. -/
theorem Field.blank_notMem_name (field : Field) : ' ' ∉ field.name := by
  cases field <;> decide

namespace Refusal

/-- The second character of a message tells its kind. -/
def kindMark : Refusal → Char
  | notUnderstood _ _ => 'I'
  | outOfRange _ _ _ => 'N'
  | nothingToRoll => 'E'

/-- A message opens with a bracket and the mark of its kind. -/
theorem message_eq_kindMark (refusal : Refusal) :
    ∃ rest, refusal.message = '[' :: refusal.kindMark :: rest := by
  cases refusal <;> exact ⟨_, rfl⟩

/-- No two refusals have one message. -/
theorem message_injective : Function.Injective message := by
  intro refusal other h
  have hkind : refusal.kindMark = other.kindMark := by
    obtain ⟨rest, hrest⟩ := refusal.message_eq_kindMark
    obtain ⟨more, hmore⟩ := other.message_eq_kindMark
    rw [hrest, hmore] at h
    exact (List.cons.inj (List.cons.inj h).2).1
  cases refusal with
  | notUnderstood token position =>
    cases other with
    | notUnderstood token' position' =>
      obtain ⟨htoken, rfl⟩ := eq_of_positioned_eq h
      rw [List.append_cancel_left htoken]
    | _ => simp [kindMark] at hkind
  | outOfRange field token position =>
    cases other with
    | outOfRange field' token' position' =>
      obtain ⟨hfront, rfl⟩ := eq_of_positioned_eq h
      simp only [List.append_assoc] at hfront
      obtain ⟨hname, htoken⟩ := eq_of_append_cons_eq field.blank_notMem_name field'.blank_notMem_name
        (List.append_cancel_left hfront)
      rw [Field.name_injective hname, List.append_cancel_left htoken]
    | _ => simp [kindMark] at hkind
  | nothingToRoll =>
    cases other with
    | nothingToRoll => rfl
    | _ => simp [kindMark] at hkind

end Refusal

variable {σ : Type} {draw : Int → Drawing σ Int}

/-- A service with a source that answers fails only with the message of a refusal. -/
theorem refused_of_run_serve (hdraw : Answers draw) {text : Text} {withMean : Bool} {before : σ}
    {failure : Failure} (h : ((serve draw text withMean).run.run before).1 = .error failure) :
    ∃ refusal, ((answer draw text withMean).run.run before).1 = .error (.refused refusal) ∧
      failure = .declined refusal.message := by
  rw [run_serve] at h
  cases hread : readSome text with
  | error refusal =>
    have hanswer := run_answer_of_refused draw hread withMean before
    rw [hanswer] at h
    exact ⟨refusal, by rw [hanswer], (Except.error.inj h).symm⟩
  | ok terms =>
    obtain ⟨report, after, hanswer, -⟩ := run_answer_of_read hdraw hread withMean before
    rw [hanswer] at h
    cases h

/-- Two requests that a service declines with one message are refused alike: for the same token, at the same
position, and for the same number in it, or both for want of terms. -/
theorem refused_alike_of_message_eq (hdraw : Answers draw) {text other : Text}
    {withMean withMean' : Bool} {before before' : σ} {failure failure' : Failure}
    (h : ((serve draw text withMean).run.run before).1 = .error failure)
    (h' : ((serve draw other withMean').run.run before').1 = .error failure')
    (hmessage : failure.message = failure'.message) :
    ∃ refusal, ((answer draw text withMean).run.run before).1 = .error (.refused refusal) ∧
      ((answer draw other withMean').run.run before').1 = .error (.refused refusal) := by
  obtain ⟨refusal, hanswer, rfl⟩ := refused_of_run_serve hdraw h
  obtain ⟨refusal', hanswer', rfl⟩ := refused_of_run_serve hdraw h'
  obtain rfl : refusal = refusal' := Refusal.message_injective hmessage
  exact ⟨refusal, hanswer, hanswer'⟩

/-- Two texts with a quote at the same position, one of which goes on like a message, are declined with one
message. -/
theorem refused_alike_of_message_eq_quote :
    Answers Source.draw ∧
      ((serve Source.draw "7 ' at position 4. Example: '".toList true).run.run
          (.script ⟨#[3], 0⟩)).1 = .error (.declined (Refusal.notUnderstood ['\''] 2).message) ∧
      ((serve Source.draw "+8' x".toList false).run.run (.script ⟨#[], 0⟩)).1 =
        .error (.declined (Refusal.notUnderstood ['\''] 2).message) ∧
      ∃ refusal,
        ((answer Source.draw "7 ' at position 4. Example: '".toList true).run.run
            (.script ⟨#[3], 0⟩)).1 = .error (.refused refusal) ∧
          ((answer Source.draw "+8' x".toList false).run.run (.script ⟨#[], 0⟩)).1 =
            .error (.refused refusal) := by
  have hfirst : readSome "7 ' at position 4. Example: '".toList =
      .error (.notUnderstood ['\''] 2) := by
    decide +kernel
  have hsecond : readSome "+8' x".toList = .error (.notUnderstood ['\''] 2) := by decide +kernel
  have hserved : ((serve Source.draw "7 ' at position 4. Example: '".toList true).run.run
      (.script ⟨#[3], 0⟩)).1 = .error (.declined (Refusal.notUnderstood ['\''] 2).message) := by
    rw [run_serve, run_answer_of_refused Source.draw hfirst]
    rfl
  have hserved' : ((serve Source.draw "+8' x".toList false).run.run (.script ⟨#[], 0⟩)).1 =
      .error (.declined (Refusal.notUnderstood ['\''] 2).message) := by
    rw [run_serve, run_answer_of_refused Source.draw hsecond]
    rfl
  exact ⟨answers_source, hserved, hserved',
    refused_alike_of_message_eq answers_source hserved hserved' rfl⟩

end DiceSum
