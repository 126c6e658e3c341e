import CrossRef.Proofs.Output.HtmlReader

/-!
HTML can be undone: the reader recovers the nodes that were written, and all output of content and
references is in the form that it expects.
-/

namespace CrossRef

/-- The attributes of an element are well formed if they are some of a fixed row of names. -/
theorem Head.isWellFormed_of_sublist {head : Head} {known : List String} (tag : IsName head.tag)
    (among : (Entries.names head.attributes).Sublist known)
    (areNames : ∀ name ∈ known, IsName name) (distinct : known.Nodup) : head.IsWellFormed where
  tag := tag
  names := fun name member => areNames name (among.subset member)
  distinct := distinct.sublist among

/-- A styled span is well formed. -/
theorem Style.isWellFormed_head (style : Style) (presentation : Presentation) :
    (style.head presentation).IsWellFormed :=
  Head.isWellFormed_of_sublist (show IsName "span" by decide)
    (style.names_attributes presentation) (by decide) (by decide)

/-- Content is written as well-formed elements. -/
theorem Inline.areWellFormed (presentation : Presentation) (piece : Inline) :
    Node.AreWellFormed [piece.toNode presentation] := by
  intro head member
  rw [Node.headsOfList_singleton] at member
  obtain ⟨style, rfl⟩ := exists_style_of_mem_heads presentation piece member
  exact style.isWellFormed_head presentation

/-- Whatever a resolution shows is well formed. -/
theorem Reference.Shows.isWellFormed {labels : LabelId → Label} {presentation : Presentation}
    {resolution : Resolution} {head : Head}
    (shows : Shows labels presentation resolution head) : head.IsWellFormed := by
  cases shows with
  | span _ style => exact style.isWellFormed_head presentation
  | bookmark label =>
      exact Head.isWellFormed_of_sublist (show IsName "a" by decide) (List.Sublist.refl ["href"])
        (by decide) (by decide)
  | address url =>
      exact Head.isWellFormed_of_sublist (show IsName "a" by decide)
        (List.Sublist.refl ["class", "href"]) (by decide) (by decide)
  | place query =>
      exact Head.isWellFormed_of_sublist (show IsName "btex-ref" by decide)
        (names_queryAttributes query) (by decide) (by decide)
  | link query linked =>
      exact Head.isWellFormed_of_sublist (show IsName "btex-link" by decide)
        (names_linkAttributes query) (by decide) (by decide)

/-- References are written as well-formed elements. -/
theorem Reference.areWellFormed (labels : LabelId → Label) (presentation : Presentation)
    (reference : Reference) : Node.AreWellFormed (reference.output labels presentation) :=
  fun _ member => (shows_of_mem_outputFor member).isWellFormed

namespace Html

/-- The reader recovers well-formed nodes from their HTML, up to their merging. -/
theorem read?_htmlOfList {nodes : List Node} (wellFormed : Node.AreWellFormed nodes) :
    read? (Node.htmlOfList nodes) = some (Node.merged nodes) := by
  rw [read?, Node.htmlOfList, String.toList_ofList, Reader.readAll_renderAll nodes wellFormed]

/-- Writing output as HTML can be undone: from the HTML of well-formed nodes, the reader recovers
them with empty texts left out and neighbouring texts as one. So two such outputs have the same
HTML exactly when they are the same up to this merging, which changes no element. All output of
content and of references is well formed. -/
theorem html_recovers :
    (∀ nodes, Node.AreWellFormed nodes →
      read? (Node.htmlOfList nodes) = some (Node.merged nodes)) ∧
    (∀ first second, Node.AreWellFormed first → Node.AreWellFormed second →
      (Node.htmlOfList first = Node.htmlOfList second ↔
        Node.merged first = Node.merged second)) ∧
    (∀ nodes, Node.headsOfList (Node.merged nodes) = Node.headsOfList nodes) ∧
    (∀ (presentation : Presentation) (piece : Inline),
      Node.AreWellFormed [piece.toNode presentation]) ∧
    (∀ (labels : LabelId → Label) (presentation : Presentation) (reference : Reference),
      Node.AreWellFormed (reference.output labels presentation)) := by
  refine ⟨fun nodes => read?_htmlOfList, fun first second wellFirst wellSecond => ⟨?_, ?_⟩,
    Node.headsOfList_merged, Inline.areWellFormed, Reference.areWellFormed⟩
  · intro same
    have read := read?_htmlOfList wellFirst
    rw [same, read?_htmlOfList wellSecond] at read
    exact (Option.some.inj read).symm
  · intro same
    rw [Node.htmlOfList, Node.htmlOfList, ← renderAll_merged first, ← renderAll_merged second,
      same]

/-- Output whose texts and values look like markup. -/
def markedOutput : List Node :=
  [.text "&lt;", .text "", .text "</a>",
    .element "a" [("class", "\"><b y='&amp;lt;'"), ("href", "")]
      [.text "", .element "b" [] [], .text "<", .text "&"]]

/-- What looks like markup in texts and values is recovered as it was, and output in which the
texts are joined has the same HTML. -/
theorem html_recovers_marks :
    Node.AreWellFormed markedOutput ∧
      read? (Node.htmlOfList markedOutput) =
        some [.text "&lt;</a>",
          .element "a" [("class", "\"><b y='&amp;lt;'"), ("href", "")]
            [.element "b" [] [], .text "<&"]] ∧
      Node.htmlOfList (Node.merged markedOutput) = Node.htmlOfList markedOutput := by
  have wellFormed : Node.AreWellFormed markedOutput := by decide
  have mergedWellFormed : Node.AreWellFormed (Node.merged markedOutput) := by decide
  exact ⟨wellFormed, html_recovers.1 markedOutput wellFormed,
    (html_recovers.2.1 _ _ mergedWellFormed wellFormed).mpr rfl⟩

end Html

end CrossRef
