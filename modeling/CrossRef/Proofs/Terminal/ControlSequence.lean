import CrossRef.Proofs.Text.Separator
import CrossRef.Terminal.ControlSequence

/-!
Texts that are printed as they are: those without control sequences. A text falls into parts at
every character that no sequence goes through.
-/

namespace CrossRef.ControlSequence

/-- No control sequence starts anywhere in the text. -/
def IsFree (text : List Char) : Prop :=
  ∀ rest, rest <:+ text → after? rest = none

/-- A sequence starts at the first character, or behind it. -/
theorem isFree_cons {c : Char} {rest : List Char} :
    IsFree (c :: rest) ↔ after? (c :: rest) = none ∧ IsFree rest :=
  Text.takesNothing_cons

/-- Nothing starts in no text. -/
@[simp] theorem isFree_nil : IsFree [] :=
  Text.takesNothing_nil rfl

/-- What is left is no longer than the text. -/
theorem length_removed_le (text : List Char) : (removed text).length ≤ text.length := by
  fun_induction removed text with
  | case1 => exact Nat.le_refl 0
  | case2 c rest afterSequence started ih =>
      exact Nat.le_trans ih (Nat.le_of_lt (length_after?_lt started))
  | case3 c rest plain ih => exact Nat.succ_le_succ ih

/-- A text is printed as it is exactly when it is free of control sequences. -/
theorem removed_eq_self_iff (text : List Char) : removed text = text ↔ IsFree text := by
  fun_induction removed text with
  | case1 => exact iff_of_true rfl isFree_nil
  | case2 c rest afterSequence started ih =>
      -- A sequence at the front is gone for good, so that the rest is too short.
      refine iff_of_false (fun same => ?_) (fun free => ?_)
      · have shorter := Nat.lt_of_le_of_lt (length_removed_le afterSequence)
          (length_after?_lt started)
        rw [same] at shorter
        exact Nat.lt_irrefl _ shorter
      · cases started.symm.trans (isFree_cons.mp free).1
  | case3 c rest plain ih =>
      rw [isFree_cons, List.cons.injEq, ih]
      simp only [plain, true_and]

/-- Sequences start with an escape. -/
theorem after?_of_ne {c : Char} (other : c ≠ '\x1B') (rest : List Char) :
    after? (c :: rest) = none := by
  rw [after?.eq_def]
  split
  · next inside equal =>
    cases equal
    exact absurd rfl other
  · rfl

/-- No sequence goes through a character that is none of the characters that may follow an
escape. -/
def Separates (c : Char) : Prop :=
  c ≠ '[' ∧ isParameter c = false ∧ c.isAlpha = false

instance (c : Char) : Decidable (Separates c) :=
  inferInstanceAs (Decidable (_ ∧ _ ∧ _))

variable {c : Char}

/-- A sequence that starts before a separating character ends before it. -/
theorem after?_append (separates : Separates c) (first : Char) (rest behind : List Char) :
    after? (first :: rest ++ c :: behind) = (after? (first :: rest)).map (· ++ c :: behind) := by
  obtain ⟨noBracket, noParameter, noLetter⟩ := separates
  by_cases escape : first = '\x1B'
  · subst escape
    rcases rest with _ | ⟨second, parameters⟩
    · simp [after?, noBracket]
    · by_cases bracket : second = '['
      · subst bracket
        simp only [List.cons_append, after?, List.dropWhile_append, List.dropWhile_cons,
          noParameter]
        cases parameters.dropWhile isParameter with
        | nil => simp [noLetter]
        | cons last behindLast => cases letter : last.isAlpha <;> simp [letter]
      · simp [after?, bracket]
  · rw [List.cons_append, after?_of_ne escape, after?_of_ne escape, Option.map_none]

/-- A text with a separating character is free when both of its parts are. -/
theorem isFree_append_iff (separates : Separates c) (start behind : List Char) :
    IsFree (start ++ c :: behind) ↔ IsFree start ∧ IsFree (c :: behind) := by
  induction start with
  | nil => simp
  | cons first rest ih =>
      rw [List.cons_append, isFree_cons, ih, @isFree_cons first rest, ← List.cons_append,
        after?_append separates, Option.map_eq_none_iff, and_assoc]

end CrossRef.ControlSequence
