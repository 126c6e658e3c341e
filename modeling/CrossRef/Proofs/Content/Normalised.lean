import CrossRef.Proofs.Content.Collapsed
import Mathlib.Data.List.Forall2

/-!
Normalised content: normalising a paragraph touches white space alone. Its runs are tidied and its
spans stay as they are, its words and its visible characters are kept, and its edges are told by the
first and the last of these characters.
-/

namespace CrossRef

/-- Texts that collapse to the same have the same words. -/
theorem Text.words_of_collapse_eq {first second : List Char}
    (same : collapse first = collapse second) : words first = words second :=
  (trim_collapse_eq_iff first second).mp (congrArg trim same)

/-- The edges that two characters have, the first and the last of a text; a text without characters
has the edges of a letter. -/
def Edges.ofEnds : Option Char → Option Char → Edges
  | some first, some last => ⟨.ofChar first, .ofChar last⟩
  | _, _ => ⟨.letter, .letter⟩

/-- The edges of a text are those of its first and its last visible character. -/
theorem Edges.ofText_eq_ofEnds (text : List Char) :
    Edges.ofText text = .ofEnds (Text.visible text).head? (Text.visible text).getLast? := by
  rw [ofText_eq, EdgeKind.ofText, EdgeKind.ofText, List.head?_reverse]
  cases seen : Text.visible text with
  | nil => rfl
  | cons first later =>
      rw [List.head?_cons, List.getLast?_cons]
      rfl

namespace Inline

/-- What tidying may make of a piece: a run keeps its words and has no white space but single
spaces, and a span is left as it is. -/
inductive Tidies : Inline → Inline → Prop
  | run {text other : String} (sameWords : Text.words other.toList = Text.words text.toList)
      (onlySpaces : ∀ c ∈ other.toList, Text.isBlank c = true → c = ' ')
      (noDouble : ¬[' ', ' '] <:+: other.toList) : Tidies (.run text) (.run other)
  | span (style : Style) (content : List Inline) :
      Tidies (.span style content) (.span style content)

/-- Collapsing tidies a piece. -/
theorem tidies_collapsed (piece : Inline) : Tidies piece piece.collapsed := by
  cases piece with
  | run text =>
      apply Tidies.run
      · rw [String.toList_ofList]
        exact Text.words_of_collapse_eq (Text.collapse_collapse text.toList)
      · intro c member blank
        rw [String.toList_ofList] at member
        rcases Text.mem_collapseFrom member with space | ⟨-, visible⟩
        · exact space
        · exact absurd blank (Bool.eq_false_iff.mp visible)
      · rw [String.toList_ofList]
        exact (Text.not_double_collapseFrom false text.toList).1
  | span style content => exact .span style content

end Inline

namespace Paragraph

variable (paragraph : Paragraph)

/-- Normalising tidies every piece. -/
theorem tidies_normalised :
    List.Forall₂ Inline.Tidies paragraph.content paragraph.normalised.content :=
  List.forall₂_map_right_iff.mpr (List.forall₂_same.mpr fun piece _ => piece.tidies_collapsed)

/-- Normalising leaves the spans where and as they are, and makes no new ones. -/
theorem span?_normalised (index : Nat) :
    paragraph.normalised.span? index = paragraph.span? index := by
  rw [span?, span?, normalised, List.getElem?_map]
  cases paragraph.content[index]? with
  | none => rfl
  | some piece => cases piece <;> rfl

/-! Main result. -/

/-- Normalising touches white space alone. As many pieces are left as there were, every one of them
tidied, and every span as it was. The text has the words and the visible characters that it had, and
is as blank as before. Doing it again changes neither the pieces nor the edges. The edges are those
of the first and the last visible character, and a paragraph without a visible character, which is a
blank one, has the edges of a letter. -/
theorem normalised_touches_blanks_alone :
    let after := paragraph.normalised
    let seen := Text.visible paragraph.text.toList
    (after.content.length = paragraph.content.length ∧
      List.Forall₂ Inline.Tidies paragraph.content after.content ∧
      ∀ index, after.span? index = paragraph.span? index) ∧
    (Text.words after.text.toList = Text.words paragraph.text.toList ∧
      Text.visible after.text.toList = seen ∧ after.isBlank = paragraph.isBlank) ∧
    (after.normalised = after ∧ after.normalised.edges = after.edges) ∧
    after.edges = .ofEnds seen.head? seen.getLast? ∧
    (paragraph.isBlank = true ↔ seen = []) := by
  intro after seen
  have edges : after.edges = .ofEnds seen.head? seen.getLast? := by
    rw [← Edges.ofText_eq_ofEnds]
    exact paragraph.edges_normalised
  refine ⟨⟨List.length_map .., paragraph.tidies_normalised, paragraph.span?_normalised⟩, ?_,
    ⟨paragraph.normalised_normalised, edges_normalised _⟩, edges, paragraph.isBlank_iff_visible⟩
  exact ⟨Text.words_of_collapse_eq paragraph.collapse_text_normalised,
    paragraph.visible_text_normalised, paragraph.isBlank_normalised_eq⟩

/-- White space is collapsed run by run and not inside spans, so that spaces may meet. -/
example :
    let paragraph : Paragraph := ⟨[.run " a\t\n", .span {} [.run "  "], .run "\u3000中"]⟩
    paragraph.normalised.text = " a    中" ∧
      paragraph.normalised.edges = ⟨.letter, .cjk⟩ := by
  decide +kernel

end Paragraph

end CrossRef
