import CrossRef.Proofs.PageName.ZeroWidth
import CrossRef.Report.PageName

/-!
The report on a page name and characters of zero width: deleting them from the text and the suffix
changes the page only where one of them parts the two, and there it costs the page a space.
-/

namespace CrossRef.Report

open PageName

/-- The text without its characters of zero width. -/
def cleared (text : String) : String :=
  String.ofList (withoutZeroWidth text.toList)

/-- The page of a report is the name of the text with its suffix, as it stands before its white
space is collapsed. -/
theorem page_ofText (text : String) (suffix : Option String) :
    Entries.get? (ofPageName text suffix).output "page" =
      some (.string (nameOf (String.ofList
        (withSuffix text.toList suffix (Edges.ofText text.toList).last)))) := by
  have named := Paragraph.pageName_congr (Paragraph.ofText text).collapse_text_normalised suffix
    (Paragraph.ofText text).normalised.edges.last
  change some (Json.string _) = _
  rw [named, Paragraph.edges_normalised, pageName_eq_nameOf, Paragraph.edges, text_ofText]

/-- Two texts have the same name when they have the same words. -/
theorem nameOf_eq_iff (first second : List Char) :
    nameOf (String.ofList first) = nameOf (String.ofList second) ↔
      wordsOf first = wordsOf second := by
  rw [nameOf, nameOf, pageName_ofText, pageName_ofText, String.ofList_inj, String.toList_ofList,
    String.toList_ofList, ofChars_eq_spell, ofChars_eq_spell, Text.trim_collapse_eq_iff]
  rfl

/-- The name of two texts whose words follow each other is the two names, joined. -/
theorem nameOf_eq_joined {text : List Char} {first second : String}
    (parts : wordsOf text = wordsOf first.toList ++ wordsOf second.toList) :
    nameOf (String.ofList text) = joined (nameOf first) (nameOf second) := by
  rw [nameOf_eq_intercalate, nameOf_eq_intercalate, nameOf_eq_intercalate, String.toList_ofList,
    parts, List.map_append, joined_intercalate ofList_wordsOf_ne_empty ofList_wordsOf_ne_empty]

/-! Main result. -/

/-- When all characters of zero width are deleted from a text and its suffix, the page stays the
same exactly when none of them parts the two. Otherwise the page is that of the text and that of
the suffix with a space between them, and without these characters it is the page of the two
written together. -/
theorem page_cleared_iff (text : String) (suffix : Option String) :
    ∃ page other : String,
      Entries.get? (ofPageName text suffix).output "page" = some (.string page) ∧
      Entries.get? (ofPageName (cleared text) (suffix.map cleared)).output "page" =
        some (.string other) ∧
      (page = other ↔ ¬IsParted text.toList (suffix.getD "").toList) ∧
      (IsParted text.toList (suffix.getD "").toList →
        page = joined (nameOf text) (nameOf (suffix.getD "")) ∧
        other = nameOf (text ++ suffix.getD "")) := by
  have clearedText : (cleared text).toList = withoutZeroWidth text.toList := String.toList_ofList
  have clearedSuffix : ((suffix.map cleared).getD "").toList =
      withoutZeroWidth (suffix.getD "").toList := by
    cases suffix with
    | none => rfl
    | some suffix => exact String.toList_ofList
  have words := wordsOf_withSuffix text.toList suffix
  have others := wordsOf_withSuffix (cleared text).toList (suffix.map cleared)
  rw [clearedText, clearedSuffix, ← withoutZeroWidth_append, wordsOf_withoutZeroWidth,
    wordsOf_withoutZeroWidth, wordsOf_withoutZeroWidth, ← clearedText] at others
  refine ⟨_, _, page_ofText text suffix, page_ofText (cleared text) (suffix.map cleared), ?_, ?_⟩
  · rw [nameOf_eq_iff, words, others, clearedText]
    exact wordsOf_seam_iff
  · intro parted
    have apart : attaches text.toList (suffix.getD "").toList = false :=
      Bool.eq_false_iff.mpr fun attached => not_isParted_of_attaches attached parted
    rw [apart] at words
    rw [clearedText, parted.attaches, ← String.toList_append] at others
    refine ⟨nameOf_eq_joined words, ?_⟩
    rw [clearedText, ← String.ofList_toList (s := text ++ suffix.getD "")]
    exact (nameOf_eq_iff _ _).mpr others

/-- A character of zero width behind a Han character keeps a Han suffix apart from it, so that the
page changes when the character is deleted. -/
theorem page_parted :
    let page := Entries.get? (ofPageName "中\u200B" (some "文")).output "page"
    let other := Entries.get? (ofPageName "中" (some "文")).output "page"
    cleared "中\u200B" = "中" ∧ cleared "文" = "文" ∧
      page = some (.string "中 文") ∧ other = some (.string "中文") ∧ page ≠ other := by
  intro page other
  have apart : page = some (.string "中 文") := by
    have name : nameOf (String.ofList (withSuffix "中\u200B".toList (some "文")
        (Edges.ofText "中\u200B".toList).last)) = "中 文" := by decide +kernel
    exact (page_ofText ..).trans (by rw [name])
  have together : other = some (.string "中文") := by
    have name : nameOf (String.ofList (withSuffix "中".toList (some "文")
        (Edges.ofText "中".toList).last)) = "中文" := by decide +kernel
    exact (page_ofText ..).trans (by rw [name])
  refine ⟨by decide, by decide, apart, together, ?_⟩
  rw [apart, together]
  simp

end CrossRef.Report
