import CrossRef.Proofs.Content.Collapsed

/-!
Names of collapsed content: a page name takes no notice of how much white space stands between two
words, so a paragraph has the same page name before and after its white space is collapsed, and so
have two paragraphs of the same text.
-/

namespace CrossRef

namespace PageName

/-- A blank character parts the words before it from those after it. -/
theorem wordsOf_append_blank (first rest : List Char) {c : Char} (blank : Text.isBlank c = true) :
    wordsOf (first ++ c :: rest) = wordsOf first ++ wordsOf rest := by
  have separator : IsSeparator [c] :=
    ⟨fun other member => Or.inl (List.mem_singleton.mp member ▸ blank),
      c, List.mem_singleton_self c, Or.inl blank⟩
  rw [← wordsOf_separator first rest separator, List.append_assoc, List.singleton_append]

/-- The words of a name are the same whether or not a part of the text is collapsed. After a blank
character no text is needed in front, and otherwise any text may stand there. -/
theorem wordsOf_collapseFrom_append (text rest : List Char) :
    wordsOf (Text.collapseFrom true text ++ rest) = wordsOf (text ++ rest) ∧
      ∀ first, wordsOf (first ++ (Text.collapseFrom false text ++ rest)) =
        wordsOf (first ++ (text ++ rest)) := by
  induction text with
  | nil => exact ⟨rfl, fun _ => rfl⟩
  | cons c text ih =>
      obtain ⟨afterBlank, afterVisible⟩ := ih
      by_cases blank : Text.isBlank c
      · constructor
        · have parted := wordsOf_append_blank [] (text ++ rest) blank
          rw [Text.collapseFrom, if_pos blank, if_pos rfl, afterBlank]
          exact parted.symm
        · intro first
          rw [Text.collapseFrom, if_pos blank, if_neg Bool.false_ne_true, List.cons_append,
            List.cons_append, wordsOf_append_blank first _ Text.isBlank_space,
            wordsOf_append_blank first _ blank, afterBlank]
      · -- A visible character joins the text in front.
        have kept (first : List Char) :
            wordsOf (first ++ (c :: Text.collapseFrom false text ++ rest)) =
              wordsOf (first ++ (c :: text ++ rest)) := by
          have joined := afterVisible (first ++ [c])
          rwa [List.append_assoc, List.append_assoc] at joined
        have collapsed (flag : Bool) :
            Text.collapseFrom flag (c :: text) = c :: Text.collapseFrom false text := by
          rw [Text.collapseFrom, if_neg blank]
        rw [collapsed, collapsed]
        exact ⟨kept [], kept⟩

/-- Two texts that collapse to the same are named alike in front of any other text. -/
theorem wordsOf_append_congr {text other : List Char}
    (same : Text.collapse text = Text.collapse other) (rest : List Char) :
    wordsOf (text ++ rest) = wordsOf (other ++ rest) := by
  have left := (wordsOf_collapseFrom_append text rest).2 []
  have right := (wordsOf_collapseFrom_append other rest).2 []
  change wordsOf (Text.collapse text ++ rest) = wordsOf (text ++ rest) at left
  change wordsOf (Text.collapse other ++ rest) = wordsOf (other ++ rest) at right
  rw [← left, ← right, same]

/-- What a suffix adds to a text does not depend on the text. -/
theorem withSuffix_eq_append (text : List Char) (suffix : Option String) (edge : EdgeKind) :
    withSuffix text suffix edge = text ++ withSuffix [] suffix edge := by
  cases suffix with
  | none => exact (List.append_nil text).symm
  | some suffix =>
      unfold withSuffix
      dsimp only
      split
      · exact (List.append_nil text).symm
      · split <;> rfl

/-- A suffix without text adds nothing. -/
theorem withSuffix_of_empty {suffix : Option String} (empty : suffix.getD "" = "")
    (text : List Char) (edge : EdgeKind) : withSuffix text suffix edge = text := by
  cases suffix with
  | none => rfl
  | some suffix =>
      rw [withSuffix, if_pos]
      simpa using empty

end PageName

/-- Paragraphs whose texts collapse to the same have the same page name. -/
theorem Paragraph.pageName_congr {first second : Paragraph}
    (same : Text.collapse first.text.toList = Text.collapse second.text.toList)
    (suffix : Option String) (edge : EdgeKind) :
    first.pageName suffix edge = second.pageName suffix edge := by
  rw [PageName.pageName_eq_nameOf, PageName.pageName_eq_nameOf, PageName.nameOf_eq_intercalate,
    PageName.nameOf_eq_intercalate, String.toList_ofList, String.toList_ofList,
    PageName.withSuffix_eq_append first.text.toList,
    PageName.withSuffix_eq_append second.text.toList, PageName.wordsOf_append_congr same]

end CrossRef
