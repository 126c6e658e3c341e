import CrossRef.Proofs.PageName.Composition
import CrossRef.Proofs.Spaced
import CrossRef.Reference.Basic

/-!
Blank content: it says nothing about a page, so the name is that of the suffix. Whether its white
space is collapsed first makes no difference, and a reference may leave it as it is.
-/

namespace CrossRef

/-- Nothing is left of a blank text at its edges. -/
theorem Text.trim_of_blank {text : List Char} (blank : ∀ c ∈ text, isBlank c = true) :
    trim text = [] := by
  rw [trim, strip, List.dropWhile_eq_nil_iff.mpr blank]
  rfl

namespace Inline

mutual

/-- A piece is blank when its text is. -/
theorem isBlank_iff (piece : Inline) :
    piece.isBlank = true ↔ ∀ c ∈ piece.text.toList, Text.isBlank c = true := by
  cases piece with
  | run text => rw [isBlank, Inline.text, Text.isAllBlank, List.all_eq_true]
  | span style content => rw [isBlank, Inline.text, areBlank_iff content]

/-- Several pieces are blank when their text is. -/
theorem areBlank_iff (content : List Inline) :
    areBlank content = true ↔ ∀ c ∈ (textOfList content).toList, Text.isBlank c = true := by
  cases content with
  | nil => simp [areBlank, textOfList]
  | cons piece rest =>
      rw [areBlank, textOfList, Bool.and_eq_true, isBlank_iff piece, areBlank_iff rest,
        String.toList_append, List.forall_mem_append]

end

/-- A blank piece stays blank when its white space is collapsed. -/
theorem isBlank_collapsed {piece : Inline} (blank : piece.isBlank = true) :
    piece.collapsed.isBlank = true := by
  cases piece with
  | run text =>
      rw [isBlank, Text.isAllBlank, List.all_eq_true] at blank
      rw [collapsed, isBlank, Text.isAllBlank, List.all_eq_true, String.toList_ofList]
      intro c member
      rcases Text.mem_collapseFrom member with rfl | ⟨inside, visible⟩
      · exact Text.isBlank_space
      · exact absurd (blank c inside) (Bool.eq_false_iff.mp visible)
  | span style content => exact blank

end Inline

namespace Paragraph

/-- A blank paragraph has a blank text. -/
theorem blank_of_isBlank {paragraph : Paragraph} (blank : paragraph.isBlank = true) :
    ∀ c ∈ paragraph.text.toList, Text.isBlank c = true :=
  (Inline.areBlank_iff paragraph.content).mp blank

/-- A blank paragraph stays blank when its white space is collapsed. -/
theorem isBlank_normalised {paragraph : Paragraph} (blank : paragraph.isBlank = true) :
    paragraph.normalised.isBlank = true := by
  obtain ⟨content⟩ := paragraph
  change Inline.areBlank content = true at blank
  change Inline.areBlank (content.map Inline.collapsed) = true
  induction content with
  | nil => rfl
  | cons piece rest ih =>
      rw [Inline.areBlank, Bool.and_eq_true] at blank
      rw [List.map_cons, Inline.areBlank, Inline.isBlank_collapsed blank.1, ih blank.2]
      rfl

/-- The edges of a blank paragraph count as letters. -/
theorem edges_of_isBlank {paragraph : Paragraph} (blank : paragraph.isBlank = true) :
    paragraph.edges = {} := by
  rw [edges, Edges.ofText, Text.trim_of_blank (blank_of_isBlank blank)]
  rfl

end Paragraph

namespace PageName

/-- Blank characters before a text add nothing to its name. -/
theorem nameOf_blanks_append {blanks : List Char} (blank : ∀ c ∈ blanks, Text.isBlank c = true)
    (rest : String) : nameOf (String.ofList (blanks ++ rest.toList)) = nameOf rest := by
  cases blanks with
  | nil => rw [List.nil_append, String.ofList_toList]
  | cons head tail =>
      have separator : IsSeparator (head :: tail) :=
        ⟨fun c member => Or.inl (blank c member),
          head, List.mem_cons_self, Or.inl (blank head List.mem_cons_self)⟩
      have split := wordsOf_separator [] rest.toList separator
      rw [List.nil_append] at split
      rw [nameOf_eq_intercalate, nameOf_eq_intercalate, String.toList_ofList, split]
      rfl

/-- Blank content and a suffix are blank characters before the suffix. -/
theorem withSuffix_of_blank {text : List Char} (blank : ∀ c ∈ text, Text.isBlank c = true)
    (suffix : Option String) :
    ∃ blanks : List Char, (∀ c ∈ blanks, Text.isBlank c = true) ∧
      withSuffix text suffix .letter = blanks ++ (suffix.getD "").toList := by
  cases suffix with
  | none => exact ⟨text, blank, by simp [withSuffix]⟩
  | some suffix =>
      by_cases empty : suffix = ""
      · exact ⟨text, blank, by simp [withSuffix, empty]⟩
      · refine ⟨text ++ [' '], ?_, by simp [withSuffix, empty]⟩
        rw [List.forall_mem_append]
        exact ⟨blank, List.forall_mem_singleton.mpr Text.isBlank_space⟩

end PageName

/-- Blank content has the name of the suffix. -/
theorem Paragraph.pageName_of_isBlank {paragraph : Paragraph} (blank : paragraph.isBlank = true)
    (suffix : Option String) :
    paragraph.pageName suffix .letter = PageName.nameOf (suffix.getD "") := by
  obtain ⟨blanks, areBlank, equal⟩ :=
    PageName.withSuffix_of_blank (blank_of_isBlank blank) suffix
  rw [PageName.pageName_eq_nameOf, equal, PageName.nameOf_blanks_append areBlank]

/-- The page that a reference infers is the name of its content with the white space collapsed,
whether or not normalising has collapsed it. -/
theorem Reference.page_normalise {reference : Reference}
    (infers : reference.binding.infersPage = true) (categoryPrefixes : List String) :
    (reference.normalise categoryPrefixes).binding.page =
      some (reference.paragraph.normalised.pageName reference.binding.pageSuffix
        reference.paragraph.normalised.edges.last) := by
  rw [normalise, normaliseContent]
  split
  · next blank =>
      have spaced := Paragraph.isBlank_normalised blank
      rw [Paragraph.edges_of_isBlank spaced, Paragraph.pageName_of_isBlank spaced,
        ← Paragraph.pageName_of_isBlank blank]
      simp only [normalisePage, infers, if_true]
      rfl
  · simp only [normalisePage, infers, if_true]
    rfl

end CrossRef
