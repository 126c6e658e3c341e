import CrossRef.Content.PageName
import CrossRef.Reference.Binding
import CrossRef.Text.Composition.Basic

/-!
References and their resolution: a reference points at a label, at an external address, or at a
page that is looked up later.
-/

namespace CrossRef

/-- Labels are known by their number. -/
abbrev LabelId := Nat

/-- A label is a place that references may point at, with its bookmark and its own content. -/
structure Label where
  bookmark : String
  paragraph : Paragraph := {}
  deriving Inhabited

/-- A page is looked up by key or by name. -/
structure Query where
  key : Option String
  page : Option String
  isInferred : Bool := false
  isLinked : Bool := true
  isCategory : Bool := false
  deriving DecidableEq, Repr

/-- What a reference points at. -/
inductive Resolution
  | target (label : LabelId) (isLinked : Bool)
  | externalUrl (url : String)
  | lookup (query : Query)
  deriving DecidableEq, Repr

/-- The name of the kind of a resolution. -/
def Resolution.kind : Resolution → String
  | target .. => "target"
  | externalUrl _ => "external_url"
  | lookup _ => "lookup"

/-- A reference with its content and its binding. The edges and the resolution are known after
the content has been normalised; the resolution belongs to the prefixes stored beside it. -/
structure Reference where
  paragraph : Paragraph := {}
  binding : Binding := {}
  edges : Option Edges := none
  target : Option LabelId := none
  categoryPrefixes : List String := defaultCategoryPrefixes
  resolution : Option Resolution := none
  deriving Inhabited

namespace Reference

/-- The name of references among the nodes of a document. -/
def nodeName : String := "ref"

/-- References stand inside lines of text. -/
def isInline : Bool := true

/-- No reference is left out as empty: without content it shows the title of its page. -/
def isEmpty (_ : Reference) : Bool := false

/-- A name of a page starts with one of the prefixes. -/
def startsWithAny (page : String) (categoryPrefixes : List String) : Bool :=
  categoryPrefixes.any fun start => start.toList.isPrefixOf page.toList

/-- Only an inferred page can lie in the category namespace. -/
def isCategory (reference : Reference) (categoryPrefixes : List String) : Bool :=
  reference.binding.infersPage &&
    match reference.binding.page with
    | some page => !page.isEmpty && startsWithAny page categoryPrefixes
    | none => false

/-- A label wins over an external address, which wins over a page. -/
def resolveNow (reference : Reference) (categoryPrefixes : List String) : Resolution :=
  match reference.target with
  | some label => .target label (!reference.binding.isUnlinked)
  | none =>
    match reference.binding.url with
    | some url =>
      if url.isEmpty then lookupOf reference else .externalUrl url
    | none => lookupOf reference
where
  /-- The query of a reference without label and address. -/
  lookupOf (reference : Reference) : Resolution :=
    .lookup
      { key := reference.binding.key
        page := reference.binding.page
        isInferred := reference.binding.infersPage
        isLinked := !reference.binding.isUnlinked
        isCategory := reference.isCategory categoryPrefixes }

/-- The stored resolution serves the prefixes that it belongs to. -/
def resolve (reference : Reference) (categoryPrefixes : List String) : Resolution :=
  match reference.resolution with
  | some resolution =>
    if categoryPrefixes = reference.categoryPrefixes then resolution
    else reference.resolveNow categoryPrefixes
  | none => reference.resolveNow categoryPrefixes

/-- The reference takes over what the scope declares. What it was bound to before is forgotten,
and its content, target and resolution stay. -/
def enter (reference : Reference) (chain : ScopeChain) : Reference :=
  { reference with binding := chain.binding }

/-- A new target takes effect in the resolution if there is one already. -/
def setTarget (reference : Reference) (target : Option LabelId) : Reference :=
  let aimed := { reference with target }
  match reference.resolution with
  | some _ => { aimed with resolution := some (aimed.resolveNow aimed.categoryPrefixes) }
  | none => aimed

/-- Content is added at the end. -/
def append (reference : Reference) (content : List Inline) : Reference :=
  { reference with paragraph := reference.paragraph.append content }

/-- Content that is not blank has its white space collapsed, and its edges are taken. -/
def normaliseContent (reference : Reference) : Reference :=
  if reference.paragraph.isBlank then { reference with edges := some {} }
  else
    let paragraph := reference.paragraph.normalised
    { reference with paragraph, edges := some paragraph.edges }

/-- A given page is composed, and a page to be inferred is taken from the content. -/
def normalisePage (reference : Reference) : Reference :=
  let page :=
    if reference.binding.infersPage then
      some (reference.paragraph.pageName reference.binding.pageSuffix
        (reference.edges.getD {}).last)
    else reference.binding.page.map Text.composed
  { reference with binding := { reference.binding with page } }

/-- Content and page are normalised, and the reference is resolved for the prefixes. -/
def normalise (reference : Reference) (categoryPrefixes : List String) : Reference :=
  let ready := { reference.normaliseContent.normalisePage with categoryPrefixes }
  { ready with resolution := some (ready.resolveNow categoryPrefixes) }

end Reference

end CrossRef
