import CrossRef.Terminal.Markup

/-!
How a message loses characters on its way to the terminal. Every change takes away some of the
characters that have a meaning in messages, so that a text that keeps all of them is unchanged.
-/

namespace CrossRef.Markup

/-- The characters that a message may not show as they are. -/
def isMark (c : Char) : Bool :=
  c == '[' || c == '\\' || c == ':' || c == '\t' || isDropped c

/-- The number of such characters in a text. -/
def weight (text : List Char) : Nat :=
  text.countP isMark

@[simp] theorem weight_nil : weight [] = 0 := rfl

@[simp] theorem weight_append (first second : List Char) :
    weight (first ++ second) = weight first + weight second :=
  List.countP_append

theorem weight_cons (c : Char) (rest : List Char) :
    weight (c :: rest) = weight rest + if isMark c then 1 else 0 :=
  List.countP_cons

@[simp] theorem weight_replicate_slash (count : Nat) :
    weight (List.replicate count '\\') = count := by
  simp [weight, List.countP_replicate, isMark]

/-- A text without marks has no weight. -/
theorem weight_eq_zero {text : List Char} (bare : ∀ c ∈ text, isMark c = false) :
    weight text = 0 := by
  rw [weight, List.countP_eq_zero]
  simpa using bare

/-- A text with some of its marks taken away, or the text itself. -/
def IsThinned (original thinned : List Char) : Prop :=
  thinned = original ∨ weight thinned < weight original

namespace IsThinned

variable {first second third : List Char}

theorem refl (text : List Char) : IsThinned text text :=
  Or.inl rfl

theorem weight_le (thinned : IsThinned first second) : weight second ≤ weight first := by
  rcases thinned with rfl | less
  · exact Nat.le_refl _
  · exact Nat.le_of_lt less

theorem eq_of_weight_le (thinned : IsThinned first second)
    (atLeast : weight first ≤ weight second) : second = first :=
  thinned.resolve_right fun less => Nat.not_lt.mpr atLeast less

theorem trans (thinned : IsThinned first second) (again : IsThinned second third) :
    IsThinned first third := by
  rcases thinned with rfl | less
  · exact again
  · exact Or.inr (Nat.lt_of_le_of_lt again.weight_le less)

/-- A text that comes back from two changes was not changed by the first. -/
theorem eq_of_trans (thinned : IsThinned first second) (again : IsThinned second first) :
    second = first :=
  thinned.eq_of_weight_le again.weight_le

/-- Two texts in a row are thinned one by one. -/
theorem append {left right : List Char} (thinned : IsThinned first second)
    (other : IsThinned left right) : IsThinned (first ++ left) (second ++ right) := by
  rcases thinned with rfl | less
  · rcases other with rfl | fewer
    · exact Or.inl rfl
    · exact Or.inr (by simpa using fewer)
  · have bound := other.weight_le
    exact Or.inr (by simp only [weight_append]; omega)

theorem cons (c : Char) (thinned : IsThinned first second) :
    IsThinned (c :: first) (c :: second) :=
  append (refl [c]) thinned

end IsThinned

end CrossRef.Markup
