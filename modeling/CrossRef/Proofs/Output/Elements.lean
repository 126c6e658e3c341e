import CrossRef.Reference.Output

/-!
The elements of an output tree, at any depth: content is written as spans alone, and a resolution
decides which other elements a reference is written as.
-/

namespace CrossRef

/-- An element without its children. -/
structure Head where
  tag : String
  attributes : Attributes

namespace Node

mutual

/-- The elements of a node, an element before its children. -/
def heads : Node → List Head
  | .text _ => []
  | .element tag attributes children => ⟨tag, attributes⟩ :: headsOfList children

/-- The elements of several nodes in a row. -/
def headsOfList : List Node → List Head
  | [] => []
  | node :: rest => node.heads ++ headsOfList rest

end

/-- A single node has its own elements. -/
@[simp] theorem headsOfList_singleton (node : Node) : headsOfList [node] = node.heads := by
  simp [headsOfList]

end Node

/-- A styled span. -/
def Style.head (style : Style) (presentation : Presentation) : Head :=
  ⟨"span", style.attributes presentation⟩

/-- A styled span has no attributes but its style and its classes, in this order. -/
theorem Style.names_attributes (style : Style) (presentation : Presentation) :
    (Entries.names (style.attributes presentation)).Sublist ["style", "class"] := by
  rw [attributes, Entries.names, List.map_append]
  change List.Sublist _ (["style"] ++ ["class"])
  refine List.Sublist.append ?_ ?_
  · split <;> simp
  · split <;> simp

namespace Inline

mutual

/-- Every element of a piece of content is a styled span. -/
theorem exists_style_of_mem_heads (presentation : Presentation) (piece : Inline) {head : Head}
    (member : head ∈ (piece.toNode presentation).heads) :
    ∃ style : Style, head = style.head presentation := by
  cases piece with
  | run text => simp [toNode, Node.heads] at member
  | span style content =>
      rw [toNode, Node.heads, List.mem_cons] at member
      rcases member with rfl | inside
      · exact ⟨style, rfl⟩
      · exact exists_style_of_mem_headsOfList presentation content inside

/-- Every element of several pieces is a styled span. -/
theorem exists_style_of_mem_headsOfList (presentation : Presentation) (content : List Inline)
    {head : Head} (member : head ∈ Node.headsOfList (toNodes presentation content)) :
    ∃ style : Style, head = style.head presentation := by
  cases content with
  | nil => simp [toNodes, Node.headsOfList] at member
  | cons piece rest =>
      rw [toNodes, Node.headsOfList, List.mem_append] at member
      rcases member with first | later
      · exact exists_style_of_mem_heads presentation piece first
      · exact exists_style_of_mem_headsOfList presentation rest later

end

end Inline

namespace Reference

/-- The elements that a resolution may be written as: styled spans, the link to a bookmark or to an
external address, and the place and the link of a page that is looked up. -/
inductive Shows (labels : LabelId → Label) (presentation : Presentation) :
    Resolution → Head → Prop
  | span (resolution : Resolution) (style : Style) :
      Shows labels presentation resolution (style.head presentation)
  | bookmark (label : LabelId) :
      Shows labels presentation (.target label true)
        ⟨"a", [("href", bookmarkAddress (labels label).bookmark)]⟩
  | address (url : String) :
      Shows labels presentation (.externalUrl url) ⟨"a", [("class", "external"), ("href", url)]⟩
  | place (query : Query) :
      Shows labels presentation (.lookup query) ⟨"btex-ref", queryAttributes query⟩
  | link (query : Query) (linked : query.isLinked) :
      Shows labels presentation (.lookup query)
        ⟨"btex-link", queryAttributes query ++
          if query.isCategory then [("data-is-category", "True")] else []⟩

/-- The content of a reference or of a label is written as styled spans. -/
theorem shows_of_mem_content {labels : LabelId → Label} {presentation : Presentation}
    (resolution : Resolution) (paragraph : Paragraph) {head : Head}
    (member : head ∈ Node.headsOfList (paragraph.toNodes presentation)) :
    Shows labels presentation resolution head := by
  obtain ⟨style, rfl⟩ := Inline.exists_style_of_mem_headsOfList presentation _ member
  exact .span resolution style

/-- Nothing else is written around the span of a reference than what the span holds. -/
theorem shows_of_mem_styled {labels : LabelId → Label} {presentation : Presentation}
    {resolution : Resolution} (reference : Reference) {children : List Node}
    (inner : ∀ head ∈ Node.headsOfList children, Shows labels presentation resolution head)
    {head : Head} (member : head ∈ (outputFor.styled presentation reference children).heads) :
    Shows labels presentation resolution head := by
  rw [outputFor.styled, Node.heads, List.mem_cons] at member
  rcases member with rfl | inside
  · exact .span resolution reference.binding.style
  · exact inner head inside

/-- The place of a page that is looked up is written as two elements. -/
theorem shows_of_mem_place {labels : LabelId → Label} {presentation : Presentation}
    (reference : Reference) (query : Query) {head : Head}
    (member : head ∈ (outputFor.styled presentation reference
      [.element "btex-ref" (queryAttributes query) []]).heads) :
    Shows labels presentation (.lookup query) head := by
  refine shows_of_mem_styled reference (fun head inside => ?_) member
  obtain rfl : head = ⟨"btex-ref", queryAttributes query⟩ := List.mem_singleton.mp inside
  exact .place query

/-- A reference is written as the elements that its resolution may show. -/
theorem shows_of_mem_outputFor {labels : LabelId → Label} {presentation : Presentation}
    {reference : Reference} {resolution : Resolution} {head : Head}
    (member : head ∈ Node.headsOfList
      (outputFor labels presentation reference resolution)) :
    Shows labels presentation resolution head := by
  cases resolution with
  | target label isLinked =>
      cases isLinked with
      | false => exact shows_of_mem_content _ _ member
      | true =>
          rw [outputFor, if_pos rfl, Node.headsOfList_singleton] at member
          refine shows_of_mem_styled reference (fun head inside => ?_) member
          rw [Node.headsOfList_singleton, Node.heads, List.mem_cons] at inside
          rcases inside with rfl | content
          · exact .bookmark label
          · exact shows_of_mem_content _ _ content
  | externalUrl url =>
      rw [outputFor, Node.headsOfList_singleton] at member
      refine shows_of_mem_styled reference (fun head inside => ?_) member
      rw [Node.headsOfList_singleton, Node.heads, List.mem_cons] at inside
      rcases inside with rfl | content
      · exact .address url
      · exact shows_of_mem_content _ _ content
  | lookup query =>
      rw [outputFor] at member
      by_cases linked : query.isLinked
      · rw [if_pos linked, Node.headsOfList_singleton, Node.heads, List.mem_cons] at member
        rcases member with rfl | inside
        · exact .link query linked
        · split at inside
          · rw [Node.headsOfList_singleton] at inside
            exact shows_of_mem_place reference query inside
          · split at inside
            · simp [Node.headsOfList] at inside
            · exact shows_of_mem_content _ _ inside
      · rw [if_neg linked, Node.headsOfList_singleton] at member
        exact shows_of_mem_place reference query member

/-- A query is written with its key and its page alone, in this order. -/
theorem names_queryAttributes (query : Query) :
    (Entries.names (queryAttributes query)).Sublist ["data-key", "data-page"] := by
  rw [queryAttributes, Entries.names, List.map_append]
  change List.Sublist _ (["data-key"] ++ ["data-page"])
  refine List.Sublist.append ?_ ?_
  · cases query.key with
    | none => simp
    | some key => by_cases empty : key.isEmpty <;> simp [empty]
  · cases query.page with
    | none => simp
    | some page => by_cases empty : page.isEmpty <;> simp [empty]

/-- The link of a query adds its mark for categories behind these. -/
theorem names_linkAttributes (query : Query) :
    (Entries.names (queryAttributes query ++
      if query.isCategory then [("data-is-category", "True")] else [])).Sublist
      ["data-key", "data-page", "data-is-category"] := by
  rw [Entries.names, List.map_append]
  change List.Sublist _ (["data-key", "data-page"] ++ ["data-is-category"])
  refine (names_queryAttributes query).append ?_
  split <;> simp

end Reference

end CrossRef
