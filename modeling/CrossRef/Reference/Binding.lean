import CrossRef.Content.Style
import CrossRef.Scope
import CrossRef.Text.Quoted
import CrossRef.Text.Word

/-!
Binding: what a reference takes over from the scope that it is entered in. Styles come from the
nearest scope that declares them, everything else from the scope of the reference alone.
-/

namespace CrossRef

/-- What a reference is bound to. -/
structure Binding where
  style : Style := {}
  page : Option String := none
  key : Option String := none
  url : Option String := none
  pageSuffix : Option String := none
  infersPage : Bool := false
  isUnlinked : Bool := false

/-- What becomes of the address that a scope declares. -/
inductive Admission
  | absent
  | accepted (url : String)
  | rejected (url : String)
  deriving DecidableEq, Repr

namespace Admission

/-- An external address starts with one of the two web schemes and a word character. -/
def isExternal (url : List Char) : Bool :=
  match url with
  | 'h' :: 't' :: 't' :: 'p' :: rest =>
    let afterScheme := match rest with
      | 's' :: secure => secure
      | _ => rest
    match afterScheme with
    | ':' :: '/' :: '/' :: c :: _ => Text.isWord c
    | _ => false
  | _ => false

/-- An address that is empty counts as none, and one that is not external is rejected. -/
def ofUrl? : Option String → Admission
  | none => absent
  | some url =>
    if url.isEmpty then absent
    else if isExternal url.toList then accepted url
    else rejected url

/-- The address that a reference keeps. -/
def url? : Admission → Option String
  | accepted url => some url
  | absent | rejected _ => none

/-- The message about an address that is not kept. -/
def notice? : Admission → Option String
  | rejected url =>
    some ("Discarding reference URL " ++ Text.quoted url ++ ": not an external http(s) link")
  | absent | accepted _ => none

end Admission

namespace ScopeChain

/-- The style that is in force: a declaration of false, and a size of zero, count as none. -/
def style (chain : ScopeChain) : Style where
  italic := if chain.boolean "text-italic" false false then some true else none
  bold := if chain.boolean "text-bold" false false then some true else none
  size :=
    let size := chain.number "text-size" 0 false
    if size.isZero then none else some size
  classes := if chain.boolean "text-class-header" false false then "item-header" else ""

/-- What becomes of the address that the scope itself declares. -/
def admission (chain : ScopeChain) : Admission :=
  .ofUrl? (chain.get? "ref-url" true)

/-- The binding of a reference that is entered in the innermost scope. -/
def binding (chain : ScopeChain) : Binding where
  style := chain.style
  page := chain.get? "ref-page" true
  key := chain.get? "ref-key" true
  url := chain.admission.url?
  pageSuffix := chain.get? "ref-page-suffix" true
  infersPage := chain.boolean "ref-infer-page" false true
  isUnlinked := chain.boolean "ref-no-link" false true

end ScopeChain

end CrossRef
