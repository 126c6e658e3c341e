import CrossRef.Entries
import CrossRef.Number.Numeral

/-!
Scoped attributes: a declaration in a scope hides the declarations of the scopes around it.
-/

namespace CrossRef

/-- The declarations of a scope and of the scopes around it, the nearest first. -/
abbrev ScopeChain := List Attributes

namespace ScopeChain

/-- The nearest declaration of a name. With the flag only the scope itself is asked. -/
def get? (chain : ScopeChain) (name : String) (ownOnly : Bool) : Option String :=
  if ownOnly then chain.head?.bind (Entries.get? · name)
  else chain.findSome? (Entries.get? · name)

/-- The words for truth and falsehood, in any case and with blanks around them. -/
def readBoolean? (text : String) : Option Bool :=
  let word := String.ofList ((Text.trim text.toList).map Char.toLower)
  if ["true", "yes", "on", "1"].contains word then some true
  else if ["false", "no", "off", "0"].contains word then some false
  else none

/-- The nearest declaration as a truth value. The default stands in where there is none, and
where the nearest one is no truth value. -/
def boolean (chain : ScopeChain) (name : String) (default : Bool) (ownOnly : Bool) : Bool :=
  ((chain.get? name ownOnly).bind readBoolean?).getD default

/-- The nearest declaration as a number, with the same rule for the default. -/
def number (chain : ScopeChain) (name : String) (default : Binary64) (ownOnly : Bool) : Binary64 :=
  ((chain.get? name ownOnly).bind Numeral.lenient?).getD default

end ScopeChain

end CrossRef
