import Mathlib.Data.List.Infix
import Mathlib.Data.List.TakeWhile

/-!
Marks in a list. A separator cuts a list: a mark that does not contain it, and a scan that stops at
it, do not go across it. What starts with an opening is taken nowhere before an opening.
-/

namespace CrossRef.Text

variable {α : Type}

section Marks

variable {mark : List α} {separator : α}

/-- Behind something that a mark does not contain, a mark does not reach back before it. -/
theorem prefix_append_cons_iff (other : separator ∉ mark) (start behind : List α) :
    mark <+: start ++ separator :: behind ↔ mark <+: start := by
  refine ⟨fun starts => ?_, fun starts => starts.trans (List.prefix_append _ _)⟩
  have cut : start ++ [separator] <+: start ++ separator :: behind := by simp
  rcases List.prefix_or_prefix_of_prefix starts cut with short | long
  · rcases List.prefix_concat_iff.mp short with whole | within
    · exact absurd (by simp [whole]) other
    · exact within
  · exact absurd (long.mem (by simp)) other

/-- A mark occurs on one side of something that it does not contain. -/
theorem infix_append_cons_iff (other : separator ∉ mark) (start behind : List α) :
    mark <:+: start ++ separator :: behind ↔ mark <:+: start ∨ mark <:+: behind := by
  induction start with
  | nil =>
      have never := prefix_append_cons_iff other [] behind
      rw [List.nil_append] at never ⊢
      rw [List.infix_cons_iff, never, List.prefix_nil, List.infix_nil]
  | cons first rest ih =>
      rw [List.cons_append, List.infix_cons_iff, ih, ← List.cons_append,
        prefix_append_cons_iff other, List.infix_cons_iff, or_assoc]

end Marks

section Scans

variable {accepts : α → Bool} {separator : α}

/-- What a scan leaves in front of a separator is left with it. -/
theorem dropWhile_append_cons (stops : accepts separator = false) (start behind : List α) :
    (start ++ separator :: behind).dropWhile accepts =
      start.dropWhile accepts ++ separator :: behind := by
  induction start with
  | nil => simp [stops]
  | cons first rest ih => cases accepted : accepts first <;> simp [accepted, ih]

/-- What a scan takes in front of a separator is all that it takes. -/
theorem takeWhile_append_cons (stops : accepts separator = false) (start behind : List α) :
    (start ++ separator :: behind).takeWhile accepts = start.takeWhile accepts := by
  induction start with
  | nil => simp [stops]
  | cons first rest ih => cases accepted : accepts first <;> simp [accepted, ih]

end Scans

section Starts

variable {β : Type} {take? : List α → Option β}

/-- Nothing is taken at any place of the list. -/
def TakesNothing (take? : List α → Option β) (list : List α) : Prop :=
  ∀ rest, rest <:+ list → take? rest = none

/-- Something is taken at the first place, or behind it. -/
theorem takesNothing_cons {first : α} {rest : List α} :
    TakesNothing take? (first :: rest) ↔
      take? (first :: rest) = none ∧ TakesNothing take? rest := by
  simp only [TakesNothing, List.suffix_cons_iff, forall_eq_or_imp]

/-- Nothing is taken from an empty list, if nothing is taken without an opening. -/
theorem takesNothing_nil (nothing : take? [] = none) : TakesNothing take? [] := by
  intro rest within
  rw [List.suffix_nil.mp within]
  exact nothing

/-- A start without an opening changes nothing about what is taken. -/
theorem takesNothing_append_iff {opening : α}
    (opened : ∀ first rest, first ≠ opening → take? (first :: rest) = none) {start : List α}
    (absent : opening ∉ start) (rest : List α) :
    TakesNothing take? (start ++ rest) ↔ TakesNothing take? rest := by
  induction start with
  | nil => rfl
  | cons first behind ih =>
      rw [List.mem_cons, not_or] at absent
      rw [List.cons_append, takesNothing_cons, ih absent.2,
        opened first _ (Ne.symm absent.1)]
      simp only [true_and]

end Starts

end CrossRef.Text
