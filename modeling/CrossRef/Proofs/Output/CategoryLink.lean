import CrossRef.Proofs.Content.Collapsed
import CrossRef.Proofs.Output.Form

/-!
Category links: a link to a category is marked, and holds nothing of the content of the reference.
Whether a page is a category shows in the output of its link alone.
-/

namespace CrossRef

/-- A resolution is a link to a category. -/
def Resolution.isCategoryLink : Resolution → Bool
  | .lookup query => query.isLinked && query.isCategory
  | .target .. | .externalUrl _ => false

/-- Content that is not blank is written as at least one node. -/
theorem Paragraph.toNodes_ne_nil {paragraph : Paragraph} (filled : paragraph.isBlank = false)
    (presentation : Presentation) : paragraph.toNodes presentation ≠ [] := by
  intro nothing
  have outline := paragraph.outlineOfList_toNodes presentation
  have text := Inline.plainTextOfList_outlineOfList presentation paragraph.content
  rw [nothing] at outline
  rw [← outline] at text
  have blank : paragraph.isBlank = true := by
    rw [isBlank_iff_visible, Paragraph.text, ← text]
    rfl
  rw [filled] at blank
  cases blank

/-- Content is not written as a link to a page. -/
theorem Paragraph.toNodes_ne_link (paragraph : Paragraph) (presentation : Presentation)
    (attributes : Attributes) (children : List Node) :
    paragraph.toNodes presentation ≠ [.element "btex-link" attributes children] := by
  intro link
  have member : ⟨"btex-link", attributes⟩ ∈ Node.headsOfList (paragraph.toNodes presentation) := by
    rw [link, Node.headsOfList_singleton, Node.heads]
    exact List.mem_cons_self
  obtain ⟨style, same⟩ := Inline.exists_style_of_mem_headsOfList presentation _ member
  have tag : "btex-link" = "span" := congrArg Head.tag same
  exact absurd tag (by decide)

namespace Reference

variable {labels : LabelId → Label} {presentation : Presentation} {reference : Reference}

/-- The mark of categories stands in the output exactly when the resolution is a link to a
category. -/
theorem exists_mark_iff (resolution : Resolution) :
    (∃ head ∈ Node.headsOfList (outputFor labels presentation reference resolution),
      "data-is-category" ∈ Entries.names head.attributes) ↔
    resolution.isCategoryLink = true := by
  constructor
  · rintro ⟨head, member, marked⟩
    cases shows_of_mem_outputFor member with
    | span resolution style =>
        exact absurd ((style.names_attributes presentation).subset marked) (by decide)
    | bookmark | address => simp [Entries.names] at marked
    | place query => exact absurd ((names_queryAttributes query).subset marked) (by decide)
    | link query linked =>
        cases category : query.isCategory with
        | true => simp [Resolution.isCategoryLink, linked, category]
        | false =>
            simp only [category, Bool.false_eq_true, if_false, List.append_nil] at marked
            exact absurd ((names_queryAttributes query).subset marked) (by decide)
  · intro category
    cases resolution with
    | target | externalUrl => cases category
    | lookup query =>
        obtain ⟨linked, category⟩ := Bool.and_eq_true_iff.mp category
        rw [outputFor, if_pos linked, Node.headsOfList_singleton, Node.heads]
        refine ⟨_, List.mem_cons_self, ?_⟩
        simp [category, Entries.names]

/-- A reference is written as a link that holds nothing exactly when it has content and its
resolution is a link to a category. -/
theorem exists_eq_emptyLink_iff (resolution : Resolution) :
    (∃ attributes, outputFor labels presentation reference resolution =
      [.element "btex-link" attributes []]) ↔
    resolution.isCategoryLink = true ∧ reference.paragraph.isBlank = false := by
  cases resolution with
  | target label isLinked =>
      refine iff_of_false ?_ fun both => by cases both.1
      rintro ⟨attributes, equal⟩
      cases isLinked with
      | true => simp [outputFor, outputFor.styled] at equal
      | false => exact Paragraph.toNodes_ne_link _ presentation attributes [] equal
  | externalUrl url => simp [outputFor, outputFor.styled, Resolution.isCategoryLink]
  | lookup query =>
      rw [outputFor]
      cases linked : query.isLinked with
      | false => simp [outputFor.styled, Resolution.isCategoryLink, linked]
      | true =>
          cases blank : reference.paragraph.isBlank with
          | true => simp
          | false =>
              cases category : query.isCategory with
              | true => simp [Resolution.isCategoryLink, linked, category]
              | false =>
                  simp [Resolution.isCategoryLink, category,
                    Paragraph.toNodes_ne_nil blank presentation]

/-- A reference with a target or an address of its own resolves to the same for all prefixes, and
any other reference is looked up. -/
theorem resolveNow_fixed_or_lookup (reference : Reference) :
    (∃ resolution, ∀ categoryPrefixes, reference.resolveNow categoryPrefixes = resolution) ∨
      ∀ categoryPrefixes, reference.resolveNow categoryPrefixes =
        resolveNow.lookupOf categoryPrefixes reference := by
  unfold resolveNow
  cases reference.target with
  | some label => exact Or.inl ⟨_, fun _ => rfl⟩
  | none =>
      cases reference.binding.url with
      | none => exact Or.inr fun _ => rfl
      | some url =>
          cases empty : url.isEmpty with
          | true => exact Or.inr fun _ => if_pos empty
          | false => exact Or.inl ⟨.externalUrl url, fun _ => by simp [empty]⟩

/-- Resolved for two lists of prefixes, a reference is written alike if it is a link to a category
for both or for none. -/
theorem outputFor_congr {first second : List String}
    (same : (reference.resolveNow first).isCategoryLink =
      (reference.resolveNow second).isCategoryLink) :
    outputFor labels presentation reference (reference.resolveNow first) =
      outputFor labels presentation reference (reference.resolveNow second) := by
  rcases reference.resolveNow_fixed_or_lookup with ⟨resolution, fixed⟩ | lookup
  · rw [fixed, fixed]
  · rw [lookup, lookup] at same ⊢
    cases unlinked : reference.binding.isUnlinked with
    | true => simp [resolveNow.lookupOf, outputFor, unlinked, queryAttributes]
    | false =>
        have flag : reference.isCategory first = reference.isCategory second := by
          simpa [resolveNow.lookupOf, Resolution.isCategoryLink, unlinked] using same
        rw [resolveNow.lookupOf, resolveNow.lookupOf, flag]

/-- Resolved for two lists of prefixes, a reference is written alike exactly if it is a link to a
category for both or for none. -/
theorem outputFor_eq_iff {first second : List String} :
    outputFor labels presentation reference (reference.resolveNow first) =
        outputFor labels presentation reference (reference.resolveNow second) ↔
      (reference.resolveNow first).isCategoryLink =
        (reference.resolveNow second).isCategoryLink := by
  refine ⟨fun equal => ?_, outputFor_congr⟩
  rw [Bool.eq_iff_iff, ← @exists_mark_iff labels presentation reference, equal, exists_mark_iff]

end Reference

end CrossRef
