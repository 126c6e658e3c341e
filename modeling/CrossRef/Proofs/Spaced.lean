import CrossRef.Proofs.Words

/-!
Spaced texts: the texts that collapsing and trimming leave as they are, which are the texts that
collapsing and trimming make.
-/

namespace CrossRef.Text

/-- In a spaced text the only white space is single spaces between words. -/
structure IsSpaced (text : List Char) : Prop where
  onlySpaces : ∀ c ∈ text, isBlank c = true → c = ' '
  noDouble : ¬[' ', ' '] <:+: text
  noLeading : text.head? ≠ some ' '
  noTrailing : text.getLast? ≠ some ' '

/-- Two spaces in a row start at the head or stand in the tail. -/
theorem not_double_cons_iff (c : Char) (rest : List Char) :
    ¬[' ', ' '] <:+: c :: rest ↔
      (c = ' ' → rest.head? ≠ some ' ') ∧ ¬[' ', ' '] <:+: rest := by
  have start : [' ', ' '] <+: c :: rest ↔ c = ' ' ∧ rest.head? = some ' ' := by
    cases rest <;> simp [List.cons_prefix_cons, eq_comm]
  rw [List.infix_cons_iff, start, not_or, not_and]

/-- The first character of a trimmed text is visible. -/
theorem isBlank_head_trim {text : List Char} {c : Char} (head : (trim text).head? = some c) :
    isBlank c = false := by
  obtain ⟨more, equal⟩ := List.rdropWhile_prefix isBlank (text.dropWhile isBlank)
  have stays := List.head?_dropWhile_not isBlank text
  change ((text.dropWhile isBlank).rdropWhile isBlank).head? = some c at head
  rw [← equal, List.head?_append, head] at stays
  simpa using stays

/-- The last character of a trimmed text is visible. -/
theorem isBlank_getLast_trim {text : List Char} {c : Char}
    (last : (trim text).getLast? = some c) : isBlank c = false := by
  have filled : trim text ≠ [] := by
    intro empty
    simp [empty] at last
  have stays := List.rdropWhile_last_not isBlank (text.dropWhile isBlank) filled
  rw [List.getLast?_eq_some_getLast filled, Option.some.injEq] at last
  rw [← last]
  exact Bool.eq_false_iff.mpr stays

/-- Every character of a trimmed text stands in the text. -/
theorem trim_isInfix (text : List Char) : trim text <:+: text :=
  have stripped := List.rdropWhile_prefix isBlank (text.dropWhile isBlank)
  stripped.isInfix.trans (List.dropWhile_suffix isBlank).isInfix

/-- Collapsing keeps visible characters and writes spaces. -/
theorem mem_collapseFrom {afterBlank : Bool} {text : List Char} {c : Char}
    (member : c ∈ collapseFrom afterBlank text) : c = ' ' ∨ c ∈ text ∧ isBlank c = false := by
  induction text generalizing afterBlank with
  | nil => simp [collapseFrom] at member
  | cons head tail ih =>
      have later {flag : Bool} (inside : c ∈ collapseFrom flag tail) :
          c = ' ' ∨ c ∈ head :: tail ∧ isBlank c = false :=
        (ih inside).imp_right fun found => ⟨List.mem_cons_of_mem _ found.1, found.2⟩
      by_cases blank : isBlank head
      · cases afterBlank
        · rw [collapseFrom, if_pos blank, if_neg Bool.false_ne_true, List.mem_cons] at member
          exact member.elim Or.inl later
        · rw [collapseFrom, if_pos blank, if_pos rfl] at member
          exact later member
      · rw [collapseFrom, if_neg blank, List.mem_cons] at member
        rcases member with rfl | inside
        · exact Or.inr ⟨List.mem_cons_self, by simpa using blank⟩
        · exact later inside

/-- A collapsed text has no two spaces in a row, and after a blank character no leading one. -/
theorem not_double_collapseFrom (afterBlank : Bool) (text : List Char) :
    ¬[' ', ' '] <:+: collapseFrom afterBlank text ∧
      (afterBlank = true → (collapseFrom afterBlank text).head? ≠ some ' ') := by
  induction text generalizing afterBlank with
  | nil => simp [collapseFrom]
  | cons head tail ih =>
      by_cases blank : isBlank head
      · cases afterBlank
        · rw [collapseFrom, if_pos blank, if_neg Bool.false_ne_true]
          exact ⟨(not_double_cons_iff _ _).mpr ⟨fun _ => (ih true).2 rfl, (ih true).1⟩,
            fun started => absurd started Bool.false_ne_true⟩
        · rw [collapseFrom, if_pos blank, if_pos rfl]
          exact ih true
      · have visible : head ≠ ' ' := by
          rintro rfl
          exact blank isBlank_space
        rw [collapseFrom, if_neg blank]
        exact ⟨(not_double_cons_iff _ _).mpr ⟨fun equal => absurd equal visible, (ih false).1⟩,
          fun _ => by simpa using visible⟩

/-- Collapsing and trimming leave single spaces between words. -/
theorem isSpaced_trim_collapse (text : List Char) : IsSpaced (trim (collapse text)) where
  onlySpaces c member blank := by
    rcases mem_collapseFrom ((trim_isInfix _).subset member) with space | ⟨-, visible⟩
    · exact space
    · simp [blank] at visible
  noDouble inside := (not_double_collapseFrom false text).1 (inside.trans (trim_isInfix _))
  noLeading head := Bool.false_ne_true ((isBlank_head_trim head).symm.trans isBlank_space)
  noTrailing last := Bool.false_ne_true ((isBlank_getLast_trim last).symm.trans isBlank_space)

/-- Nothing is collapsed in a spaced text. -/
theorem collapseFrom_eq_self (afterBlank : Bool) (text : List Char)
    (onlySpaces : ∀ c ∈ text, isBlank c = true → c = ' ') (noDouble : ¬[' ', ' '] <:+: text)
    (noLeading : afterBlank = true → text.head? ≠ some ' ') :
    collapseFrom afterBlank text = text := by
  induction text generalizing afterBlank with
  | nil => rfl
  | cons head tail ih =>
      obtain ⟨single, later⟩ := (not_double_cons_iff _ _).mp noDouble
      have rest flag := ih flag (fun c member => onlySpaces c (List.mem_cons_of_mem _ member)) later
      by_cases blank : isBlank head
      · obtain rfl := onlySpaces head List.mem_cons_self blank
        have start : afterBlank = false := by simpa using noLeading
        rw [start, collapseFrom, if_pos blank, if_neg Bool.false_ne_true,
          rest true fun _ => single rfl]
      · rw [collapseFrom, if_neg blank, rest false fun started => absurd started Bool.false_ne_true]

/-- A spaced text is left as it is. -/
theorem trim_collapse_eq_self {text : List Char} (spaced : IsSpaced text) :
    trim (collapse text) = text := by
  have kept : collapse text = text :=
    collapseFrom_eq_self false text spaced.onlySpaces spaced.noDouble
      fun started => absurd started Bool.false_ne_true
  rw [kept]
  have start : text.dropWhile isBlank = text := by
    cases text with
    | nil => rfl
    | cons head tail =>
        refine List.dropWhile_cons_of_neg fun blank => spaced.noLeading ?_
        rw [List.head?_cons, spaced.onlySpaces head List.mem_cons_self blank]
  change (text.dropWhile isBlank).rdropWhile isBlank = text
  rw [start]
  refine List.rdropWhile_eq_self_iff.mpr fun filled blank => spaced.noTrailing ?_
  rw [List.getLast?_eq_some_getLast filled,
    spaced.onlySpaces _ (List.getLast_mem filled) blank]

end CrossRef.Text
