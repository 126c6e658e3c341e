import CrossRef.Proofs.PageName.Canonical
import CrossRef.Proofs.PageName.Composition
import CrossRef.Proofs.Text.Separator

/-!
How names start: a canonical text at the start of a text starts the name as well, whatever follows
it, and a text that is not canonical does not even start its own name.
-/

namespace CrossRef

namespace Text

/-- Both sides of a visible character are collapsed on their own. -/
theorem collapseFrom_append_visible (afterBlank : Bool) (first : List Char) {c : Char}
    (visible : isBlank c = false) (rest : List Char) :
    collapseFrom afterBlank (first ++ c :: rest) =
      collapseFrom afterBlank first ++ c :: collapse rest := by
  induction first generalizing afterBlank with
  | nil => simp [collapseFrom, visible, collapse]
  | cons head tail ih =>
      rw [List.cons_append, collapseFrom, collapseFrom, ih true, ih false]
      split
      · split <;> rfl
      · rfl

/-- A visible character stops the trimming at the end. -/
theorem rdropWhile_append_visible (first : List Char) {c : Char} (visible : isBlank c = false)
    (rest : List Char) :
    (first ++ c :: rest).rdropWhile isBlank = first ++ c :: rest.rdropWhile isBlank := by
  have reversed : (first ++ c :: rest).reverse = rest.reverse ++ c :: first.reverse := by simp
  rw [List.rdropWhile, reversed, dropWhile_append_cons visible, List.rdropWhile]
  simp

/-- Collapsing never makes a text longer. -/
theorem length_collapseFrom_le (afterBlank : Bool) (text : List Char) :
    (collapseFrom afterBlank text).length ≤ text.length := by
  induction text generalizing afterBlank with
  | nil => exact Nat.le_refl _
  | cons c rest ih =>
      have later (flag : Bool) := Nat.succ_le_succ (ih flag)
      rw [collapseFrom]
      split
      · split
        · exact Nat.le_succ_of_le (ih true)
        · exact later true
      · exact later false

namespace IsSpaced

variable {start : List Char}

/-- A spaced text ends with a visible character, if it has any. -/
theorem exists_concat (spaced : IsSpaced start) (filled : start ≠ []) :
    ∃ first last, start = first ++ [last] ∧ isBlank last = false := by
  refine ⟨start.dropLast, start.getLast filled, (List.dropLast_append_getLast filled).symm, ?_⟩
  by_contra blank
  apply spaced.noTrailing
  rw [List.getLast?_eq_some_getLast filled,
    spaced.onlySpaces _ (List.getLast_mem filled) (by simpa using blank)]

/-- Nothing is trimmed in front of a spaced text, whatever follows it. -/
theorem dropWhile_append (spaced : IsSpaced start) (filled : start ≠ []) (rest : List Char) :
    (start ++ rest).dropWhile isBlank = start ++ rest := by
  obtain ⟨head, tail, rfl⟩ := List.exists_cons_of_ne_nil filled
  apply List.dropWhile_cons_of_neg
  intro blank
  apply spaced.noLeading
  rw [List.head?_cons, spaced.onlySpaces head List.mem_cons_self blank]

/-- A spaced text is collapsed to itself, and what follows it is collapsed on its own. -/
theorem collapse_append (spaced : IsSpaced start) (filled : start ≠ []) (rest : List Char) :
    collapse (start ++ rest) = start ++ collapse rest := by
  have kept : collapse start = start :=
    collapseFrom_eq_self false start spaced.onlySpaces spaced.noDouble
      fun started => absurd started Bool.false_ne_true
  obtain ⟨first, last, rfl, visible⟩ := spaced.exists_concat filled
  rw [collapse, collapseFrom_append_visible false first visible] at kept
  change collapseFrom false first ++ [last] = first ++ [last] at kept
  rw [List.append_assoc, List.singleton_append, collapse,
    collapseFrom_append_visible false first visible, List.append_cancel_right kept,
    List.append_assoc, List.singleton_append]

/-- A spaced text is kept at the start of a text that is collapsed and trimmed. -/
theorem prefix_trim_collapse (spaced : IsSpaced start) (rest : List Char) :
    start <+: trim (collapse (start ++ rest)) := by
  by_cases filled : start = []
  · rw [filled]
    exact List.nil_prefix
  · change start <+: ((collapse (start ++ rest)).dropWhile isBlank).rdropWhile isBlank
    rw [spaced.collapse_append filled, spaced.dropWhile_append filled]
    obtain ⟨first, last, rfl, visible⟩ := spaced.exists_concat filled
    rw [List.append_assoc, List.singleton_append, rdropWhile_append_visible first visible]
    exact ⟨(collapse rest).rdropWhile isBlank, List.append_assoc ..⟩

end IsSpaced

end Text

namespace PageName

/-- Without Greek letters the start of a text is spelled by itself, whatever follows it. -/
theorem exists_spellAfter_append (first : List Char) (before : Option Char) (left : Char)
    (noGreek : ∀ c ∈ left :: first, isGreek c = false) (rest : List Char) :
    ∃ later, spellAfter scanRule before left (first ++ rest) = first ++ later := by
  induction first generalizing before left with
  | nil => exact ⟨_, rfl⟩
  | cons right first ih =>
      have leftOther := noGreek left List.mem_cons_self
      have rightOther := noGreek right (List.mem_cons_of_mem _ List.mem_cons_self)
      have noGap : scanRule before left right = false := by
        simp [scanRule, needsGap, leftOther, rightOther]
      obtain ⟨later, spelled⟩ :=
        ih (some left) right fun c member => noGreek c (List.mem_cons_of_mem _ member)
      refine ⟨later, ?_⟩
      rw [List.cons_append, spellAfter, noGap, spelling_of_not_isGreek rightOther, spelled]
      rfl

/-- The same holds of the whole text. -/
theorem exists_spell_append {first : List Char} (noGreek : ∀ c ∈ first, isGreek c = false)
    (rest : List Char) : ∃ later, spell scanRule (first ++ rest) = first ++ later := by
  cases first with
  | nil => exact ⟨_, rfl⟩
  | cons head tail =>
      obtain ⟨later, spelled⟩ := exists_spellAfter_append tail none head noGreek rest
      refine ⟨later, ?_⟩
      have headOther := noGreek head List.mem_cons_self
      rw [List.cons_append, spell, spelled, spelling_of_not_isGreek headOther]
      rfl

variable {start : List Char}

/-- The name of a text starts with a canonical start of the text. -/
theorem prefix_ofChars_append (canonical : IsCanonical start) (rest : List Char) :
    start <+: ofChars (start ++ rest) := by
  obtain ⟨later, spelled⟩ := exists_spell_append canonical.noGreek (bare rest)
  rw [ofChars_eq_spell, bare_append,
    bare_eq_self canonical.noFence canonical.noZeroWidthSpace, spelled]
  exact canonical.toIsSpaced.prefix_trim_collapse later

/-- A text without fences, characters of zero width and Greek letters is only collapsed and
trimmed. -/
theorem ofChars_eq_trim_collapse {text : List Char} (noFence : fence ∉ text)
    (noZeroWidthSpace : zeroWidthSpace ∉ text) (noGreek : ∀ c ∈ text, isGreek c = false) :
    ofChars text = Text.trim (Text.collapse text) := by
  rw [ofChars_eq_spell, bare_eq_self noFence noZeroWidthSpace, spell_eq_self noGreek]

/-- A text that starts its own name is the whole of it: the name cannot be longer. -/
theorem ofChars_eq_self_of_starts (starts : start <+: ofChars start) : ofChars start = start := by
  have clean (c : Char) (member : c ∈ start) := canonical_of_mem_ofChars (starts.subset member)
  have name := ofChars_eq_trim_collapse (fun member => (clean _ member).1 rfl)
    (fun member => (clean _ member).2.1 rfl) fun c member => (clean c member).2.2
  apply (starts.eq_of_length_le ?_).symm
  rw [name]
  exact (Text.trim_isInfix _).length_le.trans (Text.length_collapseFrom_le false start)

/-- The texts that are their own names are the canonical ones. -/
theorem ofChars_eq_self_iff (text : List Char) : ofChars text = text ↔ IsCanonical text :=
  ⟨fun same => same ▸ isCanonical_ofChars text, ofChars_eq_self⟩

/-- A paragraph of one canonical text is named by that text, and no other one is. -/
theorem pageName_ofText_eq_iff (text : String) (edge : EdgeKind) :
    (Paragraph.ofText text).pageName none edge = text ↔ IsCanonical text.toList := by
  rw [pageName_ofText, ← ofChars_eq_self_iff, ← String.toList_inj, String.toList_ofList]

/-- A text starts its own name exactly when it is canonical. -/
theorem prefix_ofChars_iff (start : List Char) : start <+: ofChars start ↔ IsCanonical start := by
  constructor
  · intro starts
    exact (ofChars_eq_self_iff start).mp (ofChars_eq_self_of_starts starts)
  · intro canonical
    rw [ofChars_eq_self canonical]

end PageName

end CrossRef
