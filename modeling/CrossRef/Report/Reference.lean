import CrossRef.Document
import CrossRef.Report.Basic
import CrossRef.Settings.File

/-!
The report on one reference: it is bound, normalised and written as output under the settings.
-/

namespace CrossRef

/-- What is asked about a reference: its content, its attributes, the label it points at, and the
style that surrounds it. -/
structure ReferenceRequest where
  text : String := ""
  page : Option String := none
  key : Option String := none
  url : Option String := none
  suffix : Option String := none
  infersPage : Bool := false
  isUnlinked : Bool := false
  bookmark : Option String := none
  labelText : Option String := none
  italic : Bool := false
  bold : Bool := false
  size : Option Binary64 := none

namespace ReferenceRequest

/-- The styles are declared around the reference. -/
def outerAttributes (request : ReferenceRequest) : List (String × String) :=
  (if request.italic then [("text-italic", "true")] else []) ++
    (if request.bold then [("text-bold", "true")] else []) ++
    (request.size.map fun size => ("text-size", size.text)).toList

/-- The attributes of the reference itself are declared in a scope of its own. -/
def ownAttributes (request : ReferenceRequest) : List (String × String) :=
  (request.page.map (("ref-page", ·))).toList ++ (request.key.map (("ref-key", ·))).toList ++
    (request.url.map (("ref-url", ·))).toList ++
    (request.suffix.map (("ref-page-suffix", ·))).toList ++
    (if request.infersPage then [("ref-infer-page", "true")] else []) ++
    (if request.isUnlinked then [("ref-no-link", "true")] else [])

/-- The reference is entered and left in its scope. -/
def bindingSteps (request : ReferenceRequest) : List Document.Step :=
  request.outerAttributes.map (fun entry => .declare 0 entry.1 entry.2) ++ [.openChild 0] ++
    request.ownAttributes.map (fun entry => .declare 1 entry.1 entry.2) ++
    [.newReference [.run request.text], .enter 0 1, .leave 0 1]

/-- The reference is normalised; a label shows its own text, or that of the reference. -/
def normalisingSteps (request : ReferenceRequest) (categoryPrefixes : List String) :
    List Document.Step :=
  .normalise 0 categoryPrefixes ::
    match request.bookmark with
    | some bookmark =>
      [.newLabel bookmark [.run (request.labelText.getD request.text)], .aim 0 (some 0)]
    | none => []

/-- The document that holds the reference. -/
def document (request : ReferenceRequest) (categoryPrefixes : List String) : Document :=
  Document.blank.run (request.bindingSteps ++ request.normalisingSteps categoryPrefixes)

end ReferenceRequest

namespace Report

/-- The report under settings. -/
def ofReference (request : ReferenceRequest) (settings : Settings) : Report :=
  let document := request.document settings.categoryPrefixes
  let reference := document.reference 0
  let presentation := settings.presentation
  let kind := (reference.resolve presentation.categoryPrefixes).kind
  { announcement := "Rendering reference..."
    progress :=
      [(0.1, "Loading configuration..."), (0.3, "Binding reference..."),
       (0.6, "Normalising reference..."), (0.8, "Rendering reference..."), (1.0, "Complete")]
    result := "Rendered " ++ kind ++ " reference"
    output :=
      [("errors", .array []), ("kind", .string kind), ("page", .ofString? reference.binding.page),
       ("external_links", .ofStrings (document.register 0).links),
       ("html", .string (Node.htmlOfList (document.output 0 presentation)))]
    success := true }

/-- The report when the settings were not loaded. -/
def ofReferenceFault (fault : Settings.LoadFault) : Report :=
  fail
    { announcement := "Rendering reference..."
      progress := [(0.1, "Loading configuration..."), (1.0, "Complete")] }
    fault.message
    [("kind", .string ""), ("page", .null), ("external_links", .array []), ("html", .string "")]

/-- The settings are loaded first. Faults that are not reported are passed on. -/
def reference (request : ReferenceRequest) (home : SettingsHome) :
    Except Settings.LoadFault Report :=
  match Settings.load home with
  | .ok settings => .ok (ofReference request settings)
  | .error fault => if fault.isReported then .ok (ofReferenceFault fault) else .error fault

end Report

end CrossRef
