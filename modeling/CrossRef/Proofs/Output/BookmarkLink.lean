import CrossRef.Proofs.Output.Elements
import CrossRef.Proofs.Reference.Resolution
import CrossRef.Proofs.Text.Percent

/-!
Links to bookmarks: a reference that is linked to a label shows one address in its output, and the
bookmark of the label can be read from it.
-/

namespace CrossRef

/-- A name that was not entered has no value. -/
theorem Entries.get?_of_notMem {α : Type} {entries : Entries α} {name : String}
    (absent : name ∉ names entries) : get? entries name = none := by
  rw [get?, List.lookup_eq_none_iff]
  intro entry member
  rw [bne_iff_ne]
  rintro rfl
  exact absent (List.mem_map_of_mem member)

/-- The address that an element leads to. -/
def Head.href? (head : Head) : Option String :=
  Entries.get? head.attributes "href"

/-- The addresses that several nodes lead to, at any depth. -/
def Node.hrefs (nodes : List Node) : List String :=
  (Node.headsOfList nodes).filterMap Head.href?

/-- A styled span leads nowhere. -/
theorem Style.href?_head (style : Style) (presentation : Presentation) :
    (style.head presentation).href? = none := by
  refine Entries.get?_of_notMem fun named => ?_
  have known := (style.names_attributes presentation).subset named
  exact absurd known (by decide)

/-- No address stands in the content of a paragraph. -/
theorem Paragraph.hrefs_toNodes (presentation : Presentation) (paragraph : Paragraph) :
    Node.hrefs (paragraph.toNodes presentation) = [] := by
  refine List.filterMap_eq_nil_iff.mpr fun head member => ?_
  obtain ⟨style, rfl⟩ := Inline.exists_style_of_mem_headsOfList presentation _ member
  exact style.href?_head presentation

namespace Reference

/-- A reference is linked to a label when it resolves to the label and is not kept from linking. -/
def IsLinkedTo (reference : Reference) (categoryPrefixes : List String) (label : LabelId) : Prop :=
  reference.resolve categoryPrefixes = .target label true

/-- A reference that is given a label as its target is linked to it for all prefixes, unless its
scope keeps it from linking. -/
theorem isLinkedTo_setTarget {reference : Reference} (linked : reference.binding.isUnlinked = false)
    (label : LabelId) (categoryPrefixes : List String) :
    (reference.setTarget (some label)).IsLinkedTo categoryPrefixes label := by
  rw [IsLinkedTo, (reference.isCurrent_setTarget (some label)).resolve_eq, setTarget_eq,
    resolveNow]
  simp only [linked, Bool.not_false]

/-- A reference that is linked to a label leads to its bookmark and nowhere else. -/
theorem hrefs_output {reference : Reference} {presentation : Presentation} {label : LabelId}
    (linked : reference.IsLinkedTo presentation.categoryPrefixes label) (labels : LabelId → Label) :
    Node.hrefs (reference.output labels presentation) =
      [bookmarkAddress (labels label).bookmark] := by
  have frame := reference.binding.style.href?_head presentation
  have content := (labels label).paragraph.hrefs_toNodes presentation
  rw [Node.hrefs] at content
  rw [output, linked, outputFor, if_pos rfl, Node.hrefs, Node.headsOfList_singleton,
    outputFor.styled, Node.heads, Node.headsOfList_singleton, Node.heads]
  change List.filterMap _ (reference.binding.style.head presentation :: _) = _
  rw [List.filterMap_cons_none frame, List.filterMap_cons, content]
  rfl

/-- Different bookmarks have different addresses. -/
theorem bookmarkAddress_inj {first second : String} :
    bookmarkAddress first = bookmarkAddress second ↔ first = second := by
  rw [bookmarkAddress, bookmarkAddress, String.append_right_inj, Text.percentEncoded_inj]

/-! Main result. -/

/-- A reference that is linked to a label shows one address, a number sign and a component, and the
bytes that the component spells are read as the bookmark of the label. So the addresses of two
references that are linked to labels are the same exactly when the bookmarks of these labels are. -/
theorem bookmark_read_from_output {labels : LabelId → Label} {presentation : Presentation}
    {reference : Reference} {label : LabelId}
    (linked : reference.IsLinkedTo presentation.categoryPrefixes label) :
    (∃ component : List Char,
      Node.hrefs (reference.output labels presentation) = [String.ofList ('#' :: component)] ∧
      Text.IsComponent component ∧
      Text.decodeUtf8 (Text.percentDecoded component) = .ok (labels label).bookmark.toList) ∧
    ∀ (otherLabels : LabelId → Label) (otherPresentation : Presentation) (other : Reference)
      (otherLabel : LabelId), other.IsLinkedTo otherPresentation.categoryPrefixes otherLabel →
      (Node.hrefs (other.output otherLabels otherPresentation) =
          Node.hrefs (reference.output labels presentation) ↔
        (otherLabels otherLabel).bookmark = (labels label).bookmark) := by
  refine ⟨⟨(Text.percentEncoded (labels label).bookmark).toList, ?_,
    Text.isComponent_percentEncoded _, Text.decodeUtf8_percentEncoded _⟩, ?_⟩
  · rw [hrefs_output linked, bookmarkAddress, String.ofList_cons, String.ofList_toList]
    rfl
  · intro otherLabels otherPresentation other otherLabel otherLinked
    rw [hrefs_output otherLinked, hrefs_output linked, List.singleton_inj, bookmarkAddress_inj]

/-- A label whose bookmark has characters of one, two, three and four bytes, the sign that starts an
escape among them. -/
def wideLabel : Label :=
  { bookmark := "%'é中😀", paragraph := .ofText "here" }

/-- Only the bytes that a component may not hold are escaped. -/
theorem bookmark_read_from_output_wide :
    let reference := ({ paragraph := .ofText "there" } : Reference).setTarget (some 0)
    reference.IsLinkedTo defaultCategoryPrefixes 0 ∧
      Node.hrefs (reference.output (fun _ => wideLabel) {}) =
        ["#%25'%C3%A9%E4%B8%AD%F0%9F%98%80"] ∧
      ∃ component : List Char,
        Node.hrefs (reference.output (fun _ => wideLabel) {}) =
          [String.ofList ('#' :: component)] ∧
        Text.IsComponent component ∧
        Text.decodeUtf8 (Text.percentDecoded component) = .ok "%'é中😀".toList := by
  intro reference
  have linked : reference.IsLinkedTo defaultCategoryPrefixes 0 := isLinkedTo_setTarget rfl 0 _
  exact ⟨linked, by decide +kernel, (@bookmark_read_from_output _ {} reference 0 linked).1⟩

end Reference

end CrossRef
