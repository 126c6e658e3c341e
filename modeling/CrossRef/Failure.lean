import CrossRef.Text.Quoted

/-!
Failures of compilation, with the place in the source where they arose.
-/

namespace CrossRef

/-- A place in the source with the text that stands there. -/
structure SourceToken where
  line : Int := 0
  column : Int := 0
  text : String := ""
  deriving DecidableEq, Repr

/-- A place is shown by line and column, with its text quoted. -/
def SourceToken.description (token : SourceToken) : String :=
  toString token.line ++ ":" ++ toString token.column ++ " " ++ Text.quoted token.text

/-- A failure has a kind, and perhaps a detail and a place. -/
structure Failure where
  kind : String
  token : Option SourceToken := none
  detail : String := ""
  deriving DecidableEq, Repr

namespace Failure

/-- The kind of the failure of a node that is sent an event it does not handle. -/
def unknownEventKind : String := "UNKNOWN_EVENT"

/-- A node does not handle an event; the detail is the name of the event. -/
def unknownEvent (event : String) (token : Option SourceToken) : Failure :=
  ⟨unknownEventKind, token, event⟩

/-- The event that was not handled, if that is the failure. -/
def event? (failure : Failure) : Option String :=
  if failure.kind = unknownEventKind then some failure.detail else none

/-- The text of a failure: the kind, then the detail and the place where there are any. -/
def message (failure : Failure) : String :=
  let detail := if failure.detail.isEmpty then "" else ": " ++ failure.detail
  let place := match failure.token with
    | some token => " (at " ++ token.description ++ ")"
    | none => ""
  failure.kind ++ detail ++ place

end Failure

end CrossRef
