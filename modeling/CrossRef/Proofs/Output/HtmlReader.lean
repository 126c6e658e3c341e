import CrossRef.Proofs.Output.Merged
import Mathlib.Tactic.MkIffOfInductiveProp

/-!
A reader of the HTML that output is written as. It starts at the end of the text: when it comes to
a character, it has read everything that follows, and the name at the end of an element is known
before its content.
-/

namespace CrossRef

/-- A name of tags and attributes: letters, digits and hyphens. -/
def IsName (name : String) : Prop :=
  name ≠ "" ∧ ∀ c ∈ name.toList, c.isAlphanum ∨ c = '-'

-- Only the characters of the name are tried, not all characters there are.
instance (name : String) : Decidable (IsName name) :=
  decidable_of_iff (name ≠ "" ∧ name.toList.all fun c => c.isAlphanum || c = '-')
    (by simp [IsName])

/-- No other character occurs in a name. -/
theorem IsName.notMem {name : String} (isName : IsName name) {mark : Char}
    (other : ¬(mark.isAlphanum ∨ mark = '-')) : mark ∉ name.toList :=
  fun member => other (isName.2 mark member)

/-- The tag and the attributes of an element have names, and no two attributes have the same. -/
@[mk_iff]
structure Head.IsWellFormed (head : Head) : Prop where
  tag : IsName head.tag
  names : ∀ name ∈ Entries.names head.attributes, IsName name
  distinct : (Entries.names head.attributes).Nodup

instance (head : Head) : Decidable head.IsWellFormed :=
  decidable_of_iff' _ (Head.isWellFormed_iff head)

/-- All elements are well formed. Texts and the values of attributes are free. -/
def Node.AreWellFormed (nodes : List Node) : Prop :=
  ∀ head ∈ headsOfList nodes, head.IsWellFormed

instance (nodes : List Node) : Decidable (Node.AreWellFormed nodes) :=
  inferInstanceAs (Decidable (∀ head ∈ Node.headsOfList nodes, head.IsWellFormed))

namespace Html

open Node (leadingText behindText joinText)

/-- The character that an ampersand stands for, from what follows the ampersand. -/
def readReference : List Char → Option (List Char)
  | 'a' :: 'm' :: 'p' :: ';' :: rest => some ('&' :: rest)
  | 'l' :: 't' :: ';' :: rest => some ('<' :: rest)
  | 'g' :: 't' :: ';' :: rest => some ('>' :: rest)
  | 'q' :: 'u' :: 'o' :: 't' :: ';' :: rest => some ('"' :: rest)
  | '#' :: 'x' :: '2' :: '7' :: ';' :: rest => some ('\'' :: rest)
  | _ => none

/-- A character in front of a text that was read. -/
def readEscaped (c : Char) (text : List Char) : Option (List Char) :=
  if c = '&' then readReference text else some (c :: text)

/-- Where in the HTML a reader is, with what it has read of a tag. -/
inductive Place
  | content
  | tag (attributes : Attributes) (name : List Char)
  | value (attributes : Attributes) (text : List Char)
  | equals (attributes : Attributes) (value : String)
  | name (attributes : Attributes) (value : String) (name : List Char)

/-- A reader has read nodes, and knows the elements around them, from the inside out: their tags,
and the nodes that follow them. -/
structure Reader where
  place : Place
  nodes : List Node
  closed : List (String × List Node)

namespace Reader

/-- Content ends at a tag, and texts are unescaped. -/
def readContent (reader : Reader) (c : Char) : Option Reader :=
  if c = '>' then some { reader with place := .tag [] [] }
  else if c = '<' then none
  else (readEscaped c (leadingText reader.nodes).toList).map fun text =>
    { reader with nodes := .text (String.ofList text) :: behindText reader.nodes }

/-- The start of a tag. A closing tag is kept until the opening tag with the same name, which
makes an element of the nodes between them. -/
def readStart (reader : Reader) (attributes : Attributes) : List Char → Option Reader
  | '/' :: name =>
    if attributes = [] then
      some ⟨.content, [], (String.ofList name, reader.nodes) :: reader.closed⟩
    else none
  | name => match reader.closed with
    | (tag, behind) :: closed =>
      if tag = String.ofList name then
        some ⟨.content, .element tag attributes reader.nodes :: behind, closed⟩
      else none
    | [] => none

/-- A tag ends at its name, unless attributes stand between them. -/
def readTag (reader : Reader) (attributes : Attributes) (name : List Char) (c : Char) :
    Option Reader :=
  if c = '<' then reader.readStart attributes name
  else if c = '"' ∧ name = [] then some { reader with place := .value attributes [] }
  else some { reader with place := .tag attributes (c :: name) }

/-- A value ends at a mark, and is unescaped. -/
def readValue (reader : Reader) (attributes : Attributes) (text : List Char) (c : Char) :
    Option Reader :=
  if c = '"' then some { reader with place := .equals attributes (String.ofList text) }
  else (readEscaped c text).map fun text => { reader with place := .value attributes text }

/-- The name of an attribute ends at the space before it. -/
def readName (reader : Reader) (attributes : Attributes) (value : String) (name : List Char)
    (c : Char) : Option Reader :=
  if c = ' ' then
    some { reader with place := .tag ((String.ofList name, value) :: attributes) [] }
  else some { reader with place := .name attributes value (c :: name) }

/-- One character before what was read. -/
def read (reader : Reader) (c : Char) : Option Reader :=
  match reader.place with
  | .content => reader.readContent c
  | .tag attributes name => reader.readTag attributes name c
  | .value attributes text => reader.readValue attributes text c
  | .equals attributes value =>
    if c = '=' then some { reader with place := .name attributes value [] } else none
  | .name attributes value name => reader.readName attributes value name c

/-- A text before what was read, its last character first. -/
def readAll (reader : Reader) (text : List Char) : Option Reader :=
  text.foldr (fun c reached => reached.bind (·.read c)) (some reader)

/-- Reading no text changes nothing. -/
@[simp] theorem readAll_nil (reader : Reader) : reader.readAll [] = some reader := rfl

/-- The first character is read last. -/
theorem readAll_cons (reader : Reader) (c : Char) (text : List Char) :
    reader.readAll (c :: text) = (reader.readAll text).bind (·.read c) := rfl

/-- Of two texts, the one behind is read first. -/
theorem readAll_append (reader : Reader) (first second : List Char) :
    reader.readAll (first ++ second) =
      (reader.readAll second).bind (·.readAll first) := by
  induction first with
  | nil => simp
  | cons c first ih =>
      rw [List.cons_append, readAll_cons, ih, Option.bind_assoc]
      rfl

end Reader

/-- The nodes that a text stands for, if it is the HTML of any: it ends in content, and every
closing tag has its opening tag. -/
def read? (html : String) : Option (List Node) :=
  match Reader.readAll ⟨.content, [], []⟩ html.toList with
  | some ⟨.content, nodes, []⟩ => some nodes
  | _ => none

namespace Reader

variable (nodes : List Node) (closed : List (String × List Node))

/-- A character of a text is read as it was before it was escaped. -/
theorem readAll_escapeText (c : Char) :
    readAll ⟨.content, nodes, closed⟩ (escapeText c) =
      some ⟨.content, joinText (String.singleton c) nodes, closed⟩ := by
  unfold escapeText
  split
  case h_4 ampersand less greater =>
    change readContent _ c = _
    rw [readContent, if_neg greater, if_neg less, readEscaped, if_neg ampersand]
    simp [joinText]
  -- The other three are written as references.
  all_goals simp [readAll_cons, read, readContent, readEscaped, readReference, joinText]

/-- A text is read as it was before it was escaped. -/
theorem readAll_flatMap_escapeText (text : List Char) :
    readAll ⟨.content, nodes, closed⟩ (text.flatMap escapeText) =
      some ⟨.content, joinText (String.ofList text) nodes, closed⟩ := by
  induction text with
  | nil => simp
  | cons c text ih =>
      have first : String.ofList (c :: text) = String.singleton c ++ String.ofList text := by
        simp
      rw [List.flatMap_cons, readAll_append, ih, Option.bind_some, readAll_escapeText, first,
        Node.joinText_append]

/-- A character of a value is read as it was before it was escaped. -/
theorem readAll_escapeValue (attributes : Attributes) (text : List Char) (c : Char) :
    readAll ⟨.value attributes text, nodes, closed⟩ (escapeValue c) =
      some ⟨.value attributes (c :: text), nodes, closed⟩ := by
  unfold escapeValue
  split
  · rfl
  · rfl
  · next quote apostrophe =>
      unfold escapeText
      split
      · rfl
      · rfl
      · rfl
      · next ampersand less greater =>
          change readValue _ attributes text c = _
          rw [readValue, if_neg quote, readEscaped, if_neg ampersand, Option.map_some]

/-- A value is read as it was before it was escaped. -/
theorem readAll_flatMap_escapeValue (attributes : Attributes) (text : List Char) :
    readAll ⟨.value attributes [], nodes, closed⟩ (text.flatMap escapeValue) =
      some ⟨.value attributes text, nodes, closed⟩ := by
  induction text with
  | nil => rfl
  | cons c text ih =>
      rw [List.flatMap_cons, readAll_append, ih, Option.bind_some, readAll_escapeValue]

/-- In a tag, what is no mark is part of its name. -/
theorem readAll_tag (attributes : Attributes) {text : List Char} (start : '<' ∉ text)
    (quote : '"' ∉ text) :
    readAll ⟨.tag attributes [], nodes, closed⟩ text =
      some ⟨.tag attributes text, nodes, closed⟩ := by
  induction text with
  | nil => rfl
  | cons c text ih =>
      rw [List.mem_cons, not_or] at start quote
      rw [readAll_cons, ih start.2 quote.2, Option.bind_some]
      change readTag _ attributes text c = _
      rw [readTag, if_neg (Ne.symm start.1), if_neg fun first => quote.1 first.1.symm]

/-- Before a value, what is no space is part of the name. -/
theorem readAll_name (attributes : Attributes) (value : String) {text : List Char}
    (space : ' ' ∉ text) :
    readAll ⟨.name attributes value [], nodes, closed⟩ text =
      some ⟨.name attributes value text, nodes, closed⟩ := by
  induction text with
  | nil => rfl
  | cons c text ih =>
      rw [List.mem_cons, not_or] at space
      rw [readAll_cons, ih space.2, Option.bind_some]
      change readName _ attributes value text c = _
      rw [readName, if_neg (Ne.symm space.1)]

/-- An attribute is read before those that follow it. -/
theorem readAll_attributeText {entry : String × String} (isName : IsName entry.1)
    (attributes : Attributes) :
    readAll ⟨.tag attributes [], nodes, closed⟩ (attributeText entry) =
      some ⟨.tag (entry :: attributes) [], nodes, closed⟩ := by
  have mark : readAll ⟨.tag attributes [], nodes, closed⟩ ['"'] =
      some ⟨.value attributes [], nodes, closed⟩ := rfl
  have value := readAll_flatMap_escapeValue nodes closed attributes entry.2.toList
  have equals : readAll ⟨.value attributes entry.2.toList, nodes, closed⟩ ['=', '"'] =
      some ⟨.name attributes entry.2 [], nodes, closed⟩ := by
    change some (Reader.mk (.name attributes (String.ofList entry.2.toList) []) nodes closed) = _
    rw [String.ofList_toList]
  have name := readAll_name nodes closed attributes entry.2 (isName.notMem (by decide))
  rw [attributeText, readAll_append, mark, Option.bind_some, readAll_append, value,
    Option.bind_some, readAll_append, equals, Option.bind_some, readAll_cons, name,
    Option.bind_some]
  change some (Reader.mk (.tag ((String.ofList entry.1.toList, entry.2) :: attributes) [])
    nodes closed) = _
  rw [String.ofList_toList]

/-- Attributes are read in their order. -/
theorem readAll_attributes {attributes : Attributes}
    (areNames : ∀ name ∈ Entries.names attributes, IsName name) :
    readAll ⟨.tag [] [], nodes, closed⟩ (attributes.flatMap attributeText) =
      some ⟨.tag attributes [], nodes, closed⟩ := by
  induction attributes with
  | nil => rfl
  | cons entry attributes ih =>
      rw [Entries.names, List.map_cons, List.forall_mem_cons] at areNames
      rw [List.flatMap_cons, readAll_append, ih areNames.2, Option.bind_some,
        readAll_attributeText nodes closed areNames.1]

/-- A closing tag is kept with the nodes behind it. -/
theorem readAll_closeTag {tag : String} (isName : IsName tag) :
    readAll ⟨.content, nodes, closed⟩ (closeTag tag) =
      some ⟨.content, [], (tag, nodes) :: closed⟩ := by
  have mark : readAll ⟨.content, nodes, closed⟩ ['>'] = some ⟨.tag [] [], nodes, closed⟩ := rfl
  have start : '<' ∉ '/' :: tag.toList :=
    List.not_mem_cons_of_ne_of_not_mem (by decide) (isName.notMem (by decide))
  have quote : '"' ∉ '/' :: tag.toList :=
    List.not_mem_cons_of_ne_of_not_mem (by decide) (isName.notMem (by decide))
  rw [closeTag, readAll_append, mark, Option.bind_some, readAll_cons,
    readAll_tag nodes closed [] start quote, Option.bind_some]
  change some (Reader.mk .content [] ((String.ofList tag.toList, nodes) :: closed)) = _
  rw [String.ofList_toList]

/-- An opening tag makes an element of the nodes before its closing tag. -/
theorem readAll_openTag {tag : String} {attributes : Attributes}
    (wellFormed : Head.IsWellFormed ⟨tag, attributes⟩) (behind : List Node) :
    readAll ⟨.content, nodes, (tag, behind) :: closed⟩ (openTag tag attributes) =
      some ⟨.content, .element tag attributes nodes :: behind, closed⟩ := by
  have mark : readAll ⟨.content, nodes, (tag, behind) :: closed⟩ ['>'] =
      some ⟨.tag [] [], nodes, (tag, behind) :: closed⟩ := rfl
  have entries := readAll_attributes nodes ((tag, behind) :: closed) wellFormed.names
  have name := readAll_tag nodes ((tag, behind) :: closed) attributes
    (wellFormed.tag.notMem (by decide)) (wellFormed.tag.notMem (by decide))
  rw [openTag, readAll_append, mark, Option.bind_some, readAll_append, entries,
    Option.bind_some, readAll_cons, name, Option.bind_some]
  change readStart _ attributes tag.toList = _
  have slash : '/' ∉ tag.toList := wellFormed.tag.notMem (by decide)
  unfold readStart
  split
  · next rest equal => exact absurd (equal ▸ List.mem_cons_self) slash
  · rw [String.ofList_toList]
    exact if_pos rfl

end Reader

end Html

/-- Of several nodes in a row, the first is well formed, and those behind it. -/
theorem Node.AreWellFormed.cons {node : Node} {rest : List Node}
    (wellFormed : AreWellFormed (node :: rest)) :
    (∀ head ∈ node.heads, head.IsWellFormed) ∧ AreWellFormed rest := by
  rw [AreWellFormed, headsOfList, List.forall_mem_append] at wellFormed
  exact wellFormed

namespace Html.Reader

mutual

/-- A well-formed node is read before the nodes behind it. -/
theorem readAll_render (node : Node) (wellFormed : ∀ head ∈ node.heads, head.IsWellFormed)
    (behind : List Node) (closed : List (String × List Node)) :
    readAll ⟨.content, behind, closed⟩ (render node) =
      some ⟨.content, node.before behind, closed⟩ := by
  cases node with
  | text content =>
      rw [render, readAll_flatMap_escapeText, String.ofList_toList, Node.before]
  | element tag attributes children =>
      rw [Node.heads, List.forall_mem_cons] at wellFormed
      have inner := readAll_renderAll children wellFormed.2 ((tag, behind) :: closed)
      rw [render, readAll_append, readAll_closeTag _ _ wellFormed.1.tag, Option.bind_some,
        readAll_append, inner, Option.bind_some, readAll_openTag _ _ wellFormed.1, Node.before]

/-- Well-formed nodes are read up to their merging. -/
theorem readAll_renderAll (nodes : List Node) (wellFormed : Node.AreWellFormed nodes)
    (closed : List (String × List Node)) :
    readAll ⟨.content, [], closed⟩ (renderAll nodes) =
      some ⟨.content, Node.merged nodes, closed⟩ := by
  cases nodes with
  | nil => rw [renderAll, readAll_nil, Node.merged]
  | cons node rest =>
      rw [renderAll, readAll_append, readAll_renderAll rest wellFormed.cons.2, Option.bind_some,
        readAll_render node wellFormed.cons.1, Node.merged]

end

end Html.Reader

end CrossRef
