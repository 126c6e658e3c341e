import CrossRef.Proofs.PageName.BlankContent

/-!
Collapsed content: white space that is collapsed in some runs of a text, whichever these are, leaves
a text that collapses to the same as before and holds the same visible characters. So it is as
blank as before and has the same edges.
-/

namespace CrossRef

namespace Text

/-- The characters of a text that are not blank. -/
def visible (text : List Char) : List Char :=
  text.filter (!isBlank ·)

/-- Nothing is visible of a blank text. -/
theorem visible_eq_nil_iff (text : List Char) :
    visible text = [] ↔ ∀ c ∈ text, isBlank c = true := by
  simp [visible, List.filter_eq_nil_iff]

/-- The visible characters of joined texts are those of the one and then those of the other. -/
theorem visible_append (first second : List Char) :
    visible (first ++ second) = visible first ++ visible second :=
  List.filter_append first second

/-- Blank characters in front are not visible. -/
theorem visible_dropWhile (text : List Char) : visible (text.dropWhile isBlank) = visible text := by
  have blanks : visible (text.takeWhile isBlank) = [] :=
    (visible_eq_nil_iff _).mpr fun _ member => List.mem_takeWhile_imp member
  have whole := visible_append (text.takeWhile isBlank) (text.dropWhile isBlank)
  rw [List.takeWhile_append_dropWhile, blanks, List.nil_append] at whole
  exact whole.symm

/-- Without its leading blank characters a text starts with its first visible character. -/
theorem head?_dropWhile_isBlank (text : List Char) :
    (text.dropWhile isBlank).head? = (visible text).head? := by
  induction text with
  | nil => rfl
  | cons c rest ih =>
      by_cases blank : isBlank c
      · rw [List.dropWhile_cons_of_pos blank, ih, visible, visible,
          List.filter_cons_of_neg (by simpa using blank)]
      · rw [List.dropWhile_cons_of_neg blank, visible,
          List.filter_cons_of_pos (by simpa using blank)]
        rfl

/-- The visible characters of a text from its end are its visible characters from their end. -/
theorem visible_reverse (text : List Char) : visible text.reverse = (visible text).reverse :=
  List.filter_reverse

/-- A trimmed text ends with its last visible character. -/
theorem head?_reverse_trim (text : List Char) :
    (trim text).reverse.head? = (visible text).reverse.head? := by
  rw [trim, strip, List.reverse_reverse, head?_dropWhile_isBlank, visible_reverse,
    visible_dropWhile]

/-- A trimmed text starts with its first visible character. -/
theorem head?_trim (text : List Char) : (trim text).head? = (visible text).head? := by
  change ((text.dropWhile isBlank).rdropWhile isBlank).head? = _
  rw [← head?_dropWhile_isBlank]
  cases start : text.dropWhile isBlank with
  | nil => rfl
  | cons c rest =>
      have first := List.head?_dropWhile_not isBlank text
      rw [start] at first
      rw [rdropWhile_cons_visible (by simpa using first)]
      rfl

/-- Collapsing keeps the visible characters. -/
theorem visible_collapseFrom (afterBlank : Bool) (text : List Char) :
    visible (collapseFrom afterBlank text) = visible text := by
  induction text generalizing afterBlank with
  | nil => rfl
  | cons c rest ih =>
      unfold visible at ih ⊢
      by_cases blank : isBlank c
      · rw [List.filter_cons_of_neg (by simpa using blank), collapseFrom, if_pos blank]
        cases afterBlank with
        | true => exact ih true
        | false =>
            rw [if_neg Bool.false_ne_true, List.filter_cons_of_neg (by simp [isBlank_space])]
            exact ih true
      · rw [List.filter_cons_of_pos (by simpa using blank), collapseFrom, if_neg blank,
          List.filter_cons_of_pos (by simpa using blank), ih]

/-- It makes no difference whether the first part of a text was collapsed before, unless that was
done as if after a blank character and none stands there. -/
theorem collapseFrom_collapseFrom_append {before afterBlank : Bool}
    (known : before = true → afterBlank = true) (first rest : List Char) :
    collapseFrom afterBlank (collapseFrom before first ++ rest) =
      collapseFrom afterBlank (first ++ rest) := by
  induction first generalizing before afterBlank with
  | nil => rfl
  | cons c first ih =>
      have afterSpace := @ih true true id
      by_cases blank : isBlank c
      · cases before with
        | true =>
            rw [known rfl, collapseFrom, if_pos blank, if_pos rfl, afterSpace, List.cons_append,
              collapseFrom, if_pos blank, if_pos rfl]
        | false =>
            rw [collapseFrom, if_pos blank, if_neg Bool.false_ne_true, List.cons_append,
              List.cons_append, collapseFrom, if_pos isBlank_space, collapseFrom, if_pos blank,
              afterSpace]
      · rw [collapseFrom, if_neg blank, List.cons_append, List.cons_append, collapseFrom,
          if_neg blank, collapseFrom, if_neg blank, ih id]

/-- Collapsing a collapsed text changes nothing. -/
theorem collapse_collapse (text : List Char) : collapse (collapse text) = collapse text := by
  have again := @collapseFrom_collapseFrom_append false false id text []
  rwa [List.append_nil, List.append_nil] at again

/-- Collapsing a joined text does not depend on whether its second part was collapsed before. -/
theorem collapse_append_congr {second other : List Char} (same : collapse second = collapse other)
    (first : List Char) : collapse (first ++ second) = collapse (first ++ other) := by
  have after (afterBlank : Bool) :
      collapseFrom afterBlank second = collapseFrom afterBlank other := by
    have left := @collapseFrom_collapseFrom_append false afterBlank nofun second []
    have right := @collapseFrom_collapseFrom_append false afterBlank nofun other []
    rw [List.append_nil, List.append_nil] at left right
    change collapseFrom false second = collapseFrom false other at same
    rw [← left, ← right, same]
  suffices joined : ∀ afterBlank, collapseFrom afterBlank (first ++ second) =
      collapseFrom afterBlank (first ++ other) from joined false
  induction first with
  | nil => exact after
  | cons c first ih =>
      intro afterBlank
      rw [List.cons_append, List.cons_append, collapseFrom, collapseFrom, ih true, ih false]

end Text

/-- The edges of a text are the kinds of its first and its last visible character. -/
theorem Edges.ofText_eq (text : List Char) :
    Edges.ofText text =
      ⟨.ofText (Text.visible text), .ofText (Text.visible text).reverse⟩ := by
  simp only [ofText, EdgeKind.ofText, Text.head?_trim, Text.head?_reverse_trim]

namespace Inline

/-- A collapsed piece has nothing left to collapse. -/
theorem collapsed_collapsed (piece : Inline) : piece.collapsed.collapsed = piece.collapsed := by
  cases piece with
  | run text => rw [collapsed, collapsed, String.toList_ofList, Text.collapse_collapse]
  | span style content => rfl

/-- The text of several pieces collapses to the same when some of them are collapsed before. -/
theorem collapse_textOfList_collapsed (content : List Inline) :
    Text.collapse (textOfList (content.map collapsed)).toList =
      Text.collapse (textOfList content).toList := by
  induction content with
  | nil => rfl
  | cons piece rest ih =>
      rw [List.map_cons, textOfList, textOfList, String.toList_append, String.toList_append,
        Text.collapse_append_congr ih]
      cases piece with
      | run text =>
          rw [collapsed, Inline.text, Inline.text, String.toList_ofList]
          exact Text.collapseFrom_collapseFrom_append id _ _
      | span style content => rfl

end Inline

namespace Paragraph

variable (paragraph : Paragraph)

/-- Normalised content has nothing left to collapse. -/
theorem normalised_normalised : paragraph.normalised.normalised = paragraph.normalised := by
  rw [normalised, normalised, List.map_map]
  congr 1
  apply List.map_congr_left
  intro piece _
  exact piece.collapsed_collapsed

/-- Normalised content has a text that collapses to the same as before. -/
theorem collapse_text_normalised :
    Text.collapse paragraph.normalised.text.toList = Text.collapse paragraph.text.toList :=
  Inline.collapse_textOfList_collapsed paragraph.content

/-- Normalised content has the visible characters that it had before. -/
theorem visible_text_normalised :
    Text.visible paragraph.normalised.text.toList = Text.visible paragraph.text.toList := by
  rw [← Text.visible_collapseFrom false, ← Text.visible_collapseFrom false paragraph.text.toList]
  exact congrArg Text.visible paragraph.collapse_text_normalised

/-- A paragraph is blank when nothing of its text is visible. -/
theorem isBlank_iff_visible :
    paragraph.isBlank = true ↔ Text.visible paragraph.text.toList = [] := by
  rw [Text.visible_eq_nil_iff]
  exact Inline.areBlank_iff paragraph.content

/-- Normalised content is as blank as before. -/
theorem isBlank_normalised_eq : paragraph.normalised.isBlank = paragraph.isBlank := by
  rw [Bool.eq_iff_iff, isBlank_iff_visible, isBlank_iff_visible, visible_text_normalised]

/-- Normalised content has the edges that it had before. -/
theorem edges_normalised : paragraph.normalised.edges = paragraph.edges := by
  rw [edges, edges, Edges.ofText_eq, Edges.ofText_eq, visible_text_normalised]

end Paragraph

end CrossRef
