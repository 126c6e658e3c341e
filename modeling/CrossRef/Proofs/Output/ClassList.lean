import CrossRef.Output.Workbench
import CrossRef.Proofs.Words
import Mathlib.Data.List.Induction

/-!
Class lists: classes that are added to an element accumulate behind those that it had, each once,
whatever other attributes are set in between, and no attribute changes its place.
-/

namespace CrossRef

/-! Lists that grow without repetition. -/

/-- A list with one more name at the end, unless it holds the name. -/
def withName (known : List String) (name : String) : List String :=
  if name ∈ known then known else known ++ [name]

/-- A list with those of some more names that it does not hold, each once and in the order in which
they first appear. -/
def grownBy (known more : List String) : List String :=
  known ++ (more.filter (· ∉ known)).eraseDups

/-- A list that is to take nothing stays as it is. -/
theorem grownBy_nil (known : List String) : grownBy known [] = known :=
  List.append_nil known

/-- A grown list holds the names that it had and those that it was to take. -/
theorem mem_grownBy {known more : List String} {name : String} :
    name ∈ grownBy known more ↔ name ∈ known ∨ name ∈ more := by
  rw [grownBy, List.mem_append, List.mem_eraseDups, List.mem_filter, decide_eq_true_iff]
  by_cases member : name ∈ known <;> simp [member]

/-- A list grows name by name. -/
theorem grownBy_concat (known more : List String) (name : String) :
    grownBy known (more ++ [name]) = withName (grownBy known more) name := by
  rw [withName]
  -- The name was there, comes again among the names to take, or is new.
  by_cases old : name ∈ known
  · have skipped : [name].filter (· ∉ known) = [] := by simp [old]
    rw [if_pos (mem_grownBy.mpr (Or.inl old)), grownBy, List.filter_append, skipped,
      List.append_nil, grownBy]
  · have taken : [name].filter (· ∉ known) = [name] := by simp [old]
    rw [grownBy, List.filter_append, taken, List.eraseDups_append, ← List.append_assoc]
    change grownBy known more ++ ([name].removeAll (more.filter (· ∉ known))).eraseDups = _
    by_cases repeated : name ∈ more
    · have removed : [name].removeAll (more.filter (· ∉ known)) = [] := by
        simp [List.cons_removeAll, old, repeated]
      rw [if_pos (mem_grownBy.mpr (Or.inr repeated)), removed, List.eraseDups_nil, List.append_nil]
    · have kept : [name].removeAll (more.filter (· ∉ known)) = [name] := by
        simp [List.cons_removeAll, repeated]
      have new : name ∉ grownBy known more := fun member =>
        (mem_grownBy.mp member).elim old repeated
      rw [if_neg new, kept, List.eraseDups_cons, List.filter_nil, List.eraseDups_nil]

/-! Single classes. -/

instance (word : List Char) : Decidable (Text.IsWord word) :=
  decidable_of_iff (word ≠ [] ∧ word.all (!Text.isBlank ·) = true) (by simp [Text.IsWord])

namespace Attributes

/-- The classes of an element are words. -/
theorem isWord_of_mem_classes {attributes : Attributes} {name : String}
    (member : name ∈ attributes.classes) : Text.IsWord name.toList := by
  obtain ⟨word, isWord, rfl⟩ := List.mem_map.mp member
  rw [String.toList_ofList]
  exact Text.isWord_of_mem_words isWord

/-- Words that are joined by single spaces are the classes that are read from them. -/
theorem classes_set {names : List String} (areWords : ∀ name ∈ names, Text.IsWord name.toList)
    (attributes : Attributes) :
    classes (Entries.set attributes "class" (" ".intercalate names)) = names := by
  have words : Text.words (" ".intercalate names).toList = names.map String.toList := by
    rw [String.toList_intercalate]
    refine Text.words_intercalate fun word member => ?_
    obtain ⟨name, listed, rfl⟩ := List.mem_map.mp member
    exact areWords name listed
  rw [classes, Entries.get?_set, if_pos rfl, Option.getD_some, words, List.map_map]
  simp [Function.comp_def]

/-- Adding a class writes the classes anew. -/
theorem addClass_eq (attributes : Attributes) (name : String) :
    attributes.addClass name =
      Entries.set attributes "class" (" ".intercalate (withName attributes.classes name)) := by
  simp only [addClass, withName, List.contains_iff_mem]

/-- An added class is one of the classes, and the others are kept. -/
theorem classes_addClass {name : String} (isWord : Text.IsWord name.toList)
    (attributes : Attributes) :
    (attributes.addClass name).classes = withName attributes.classes name := by
  rw [addClass_eq]
  refine classes_set (fun other member => ?_) attributes
  unfold withName at member
  split at member
  · exact isWord_of_mem_classes member
  · rcases List.mem_append.mp member with known | added
    · exact isWord_of_mem_classes known
    · obtain rfl := List.mem_singleton.mp added
      exact isWord

end Attributes

/-! Edits of an element. -/

/-- What is done to the attributes of an element. -/
inductive Edit
  | setAttribute (name value : String)
  | addClass (name : String)

namespace Edit

/-- The attributes after an edit. -/
def apply (attributes : Attributes) : Edit → Attributes
  | setAttribute name value => Entries.set attributes name value
  | addClass name => attributes.addClass name

/-- The attribute that an edit writes. -/
def target : Edit → String
  | setAttribute name _ => name
  | addClass _ => "class"

/-- The class that an edit adds. -/
def added? : Edit → Option String
  | setAttribute .. => none
  | addClass name => some name

/-- The value that an edit sets an attribute to. -/
def valueFor? (name : String) : Edit → Option String
  | setAttribute other value => if other = name then some value else none
  | addClass _ => none

/-- Classes are added by their names, which are words, and not set by hand. -/
def KeepsClasses : Edit → Prop
  | setAttribute name _ => name ≠ "class"
  | addClass name => Text.IsWord name.toList

instance : DecidablePred KeepsClasses
  | setAttribute name _ => inferInstanceAs (Decidable (name ≠ "class"))
  | addClass name => inferInstanceAs (Decidable (Text.IsWord name.toList))

variable {attributes : Attributes} {edit : Edit}

/-- An edit leaves the names of the attributes in their places, and adds a new one at the end. -/
theorem names_apply (attributes : Attributes) (edit : Edit) :
    Entries.names (edit.apply attributes) = withName (Entries.names attributes) edit.target := by
  cases edit with
  | setAttribute name value => exact Entries.names_set attributes name value
  | addClass name =>
      rw [apply, Attributes.addClass_eq]
      exact Entries.names_set attributes "class" _

/-- An edit gives the classes one more, if it adds one. -/
theorem classes_apply (keeps : edit.KeepsClasses) (attributes : Attributes) :
    (edit.apply attributes).classes =
      (edit.added?.map (withName attributes.classes)).getD attributes.classes := by
  cases edit with
  | setAttribute name value =>
      rw [apply, Attributes.classes, Entries.get?_set, if_neg (Ne.symm keeps)]
      rfl
  | addClass name => exact Attributes.classes_addClass keeps attributes

/-- An attribute other than the classes has the value that an edit sets it to. -/
theorem get?_apply {name : String} (other : name ≠ "class") (attributes : Attributes)
    (edit : Edit) :
    Entries.get? (edit.apply attributes) name =
      (edit.valueFor? name).or (Entries.get? attributes name) := by
  cases edit with
  | setAttribute changed value =>
      rw [apply, Entries.get?_set, valueFor?]
      by_cases same : name = changed
      · simp [same]
      · simp [same, Ne.symm same]
  | addClass added =>
      rw [apply, Attributes.addClass_eq, Entries.get?_set, if_neg other]
      rfl

/-- An edit that adds a class writes the classes with single spaces, and any other leaves them as
they are written. -/
theorem get?_class_apply (keeps : edit.KeepsClasses)
    (written : edit.added? = none →
      Entries.get? attributes "class" = some (" ".intercalate attributes.classes)) :
    Entries.get? (edit.apply attributes) "class" =
      some (" ".intercalate (edit.apply attributes).classes) := by
  cases edit with
  | setAttribute name value =>
      rw [classes_apply keeps, apply, Entries.get?_set, if_neg (Ne.symm keeps)]
      exact written rfl
  | addClass name =>
      rw [classes_apply keeps, apply, Attributes.addClass_eq, Entries.get?_set, if_pos rfl]
      rfl

/-! Several edits, one after the other. -/

/-- The attributes after several edits. -/
def applyAll (attributes : Attributes) (edits : List Edit) : Attributes :=
  edits.foldl apply attributes

/-- The last edit is made to the attributes that the edits before it leave. -/
theorem applyAll_concat (attributes : Attributes) (edits : List Edit) (edit : Edit) :
    applyAll attributes (edits ++ [edit]) = edit.apply (applyAll attributes edits) :=
  List.foldl_concat ..

/-- The names of the attributes stay in their places, and new ones follow in the order in which they
were first written. -/
theorem names_applyAll (attributes : Attributes) (edits : List Edit) :
    Entries.names (applyAll attributes edits) =
      grownBy (Entries.names attributes) (edits.map target) := by
  induction edits using List.reverseRecOn with
  | nil => exact (grownBy_nil _).symm
  | append_singleton edits edit ih =>
      rw [applyAll_concat, names_apply, ih, List.map_append, List.map_singleton, grownBy_concat]

/-- An attribute other than the classes has the value that it was set to last. -/
theorem get?_applyAll {name : String} (other : name ≠ "class") (attributes : Attributes)
    (edits : List Edit) :
    Entries.get? (applyAll attributes edits) name =
      ((edits.filterMap (valueFor? name)).getLast?).or (Entries.get? attributes name) := by
  induction edits using List.reverseRecOn with
  | nil => rfl
  | append_singleton edits edit ih =>
      rw [applyAll_concat, get?_apply other, ih, List.filterMap_append, List.getLast?_append,
        ← Option.or_assoc]
      cases set : edit.valueFor? name <;> simp [set]

/-- The classes grow by those that are added. -/
theorem classes_applyAll (attributes : Attributes) {edits : List Edit}
    (keep : ∀ edit ∈ edits, edit.KeepsClasses) :
    (applyAll attributes edits).classes =
      grownBy attributes.classes (edits.filterMap added?) := by
  induction edits using List.reverseRecOn with
  | nil => exact (grownBy_nil _).symm
  | append_singleton edits edit ih =>
      rw [List.forall_mem_append, List.forall_mem_singleton] at keep
      rw [applyAll_concat, classes_apply keep.2, ih keep.1, List.filterMap_append]
      cases added : edit.added? with
      | none => simp [added]
      | some name => simp [added, grownBy_concat]

/-- Once a class was added, the classes are written with single spaces. -/
theorem get?_class_applyAll (attributes : Attributes) {edits : List Edit}
    (keep : ∀ edit ∈ edits, edit.KeepsClasses) (adds : edits.filterMap added? ≠ []) :
    Entries.get? (applyAll attributes edits) "class" =
      some (" ".intercalate (applyAll attributes edits).classes) := by
  induction edits using List.reverseRecOn with
  | nil => exact absurd rfl adds
  | append_singleton edits edit ih =>
      rw [List.forall_mem_append, List.forall_mem_singleton] at keep
      rw [applyAll_concat]
      refine get?_class_apply keep.2 fun quiet => ih keep.1 ?_
      simpa [List.filterMap_append, quiet] using adds

end Edit

/-! Elements of a workbench. -/

namespace Workbench

/-- One element is edited. -/
def edit (bench : Workbench) (number : Nat) : Edit → Workbench
  | .setAttribute name value => bench.setAttribute number name value
  | .addClass name => bench.addClass number name

/-- One element is edited several times. -/
def editAll (bench : Workbench) (number : Nat) (edits : List Edit) : Workbench :=
  edits.foldl (fun bench edit => bench.edit number edit) bench

/-- An edit changes the attributes of the element and nothing else. -/
theorem edit_eq (bench : Workbench) (number : Nat) (edit : Edit) :
    bench.edit number edit = bench.update number fun draft =>
      { draft with attributes := edit.apply draft.attributes } := by
  cases edit <;> rfl

/-- Several edits change the attributes of the element and nothing else. -/
theorem editAll_eq (bench : Workbench) (number : Nat) (edits : List Edit) :
    bench.editAll number edits = bench.update number fun draft =>
      { draft with attributes := Edit.applyAll draft.attributes edits } := by
  induction edits generalizing bench with
  | nil => exact congrArg Workbench.mk (List.modify_id ..).symm
  | cons edit later ih =>
      rw [editAll, List.foldl_cons]
      change (bench.edit number edit).editAll number later = _
      rw [ih, edit_eq, update, update, List.modify_modify_eq]
      rfl

/-- The attributes of an element after several edits. -/
theorem attributes_editAll {bench : Workbench} {number : Nat}
    (present : number < bench.drafts.length) (edits : List Edit) :
    ((bench.editAll number edits).draft number).attributes =
      Edit.applyAll (bench.draft number).attributes edits := by
  simp only [editAll_eq, draft, update, List.getD_eq_getElem?_getD, List.getElem?_modify,
    List.getElem?_eq_getElem present, if_true]
  rfl

/-! Main result. -/

/-- An element is edited, in any order, by adding at least one class and by setting other
attributes. Its class attribute then holds the classes that it had and those of the added ones that
are not among them, each once and in the order in which they were first added, with single spaces
between them. Every other attribute has the value that it was set to last, or the one that it had
before. All attributes stand in the order in which their names were first written. -/
theorem classes_accumulate {bench : Workbench} {number : Nat}
    (present : number < bench.drafts.length) {edits : List Edit}
    (keep : ∀ edit ∈ edits, edit.KeepsClasses) (adds : edits.filterMap Edit.added? ≠ []) :
    let before := (bench.draft number).attributes
    let after := ((bench.editAll number edits).draft number).attributes
    Entries.get? after "class" =
        some (" ".intercalate (grownBy before.classes (edits.filterMap Edit.added?))) ∧
      (∀ name ≠ "class", Entries.get? after name =
        ((edits.filterMap (Edit.valueFor? name)).getLast?).or (Entries.get? before name)) ∧
      Entries.names after = grownBy (Entries.names before) (edits.map Edit.target) := by
  intro before after
  have applied : after = Edit.applyAll before edits := attributes_editAll present edits
  rw [applied, Edit.get?_class_applyAll before keep adds, Edit.classes_applyAll before keep]
  exact ⟨rfl, fun name other => Edit.get?_applyAll other before edits,
    Edit.names_applyAll before edits⟩

/-- A bench with one element, whose classes are repeated and parted by other blanks than spaces. -/
def repeatingBench : Workbench :=
  ⟨[⟨"a", [("id", "x"), ("class", "\ta  b a")], []⟩]⟩

/-- Edits that repeat classes and set one attribute twice. -/
def repeatingEdits : List Edit :=
  [.addClass "c", .setAttribute "id" "y", .addClass "b", .setAttribute "href" "#", .addClass "é",
    .addClass "c", .setAttribute "id" "z"]

/-- Repeated classes that were there before stay, and added ones are not repeated. -/
theorem classes_accumulate_repeating :
    (∀ edit ∈ repeatingEdits, edit.KeepsClasses) ∧
      ((repeatingBench.editAll 0 repeatingEdits).draft 0).attributes =
        [("id", "z"), ("class", "a b a c é"), ("href", "#")] ∧
      Entries.get? ((repeatingBench.editAll 0 repeatingEdits).draft 0).attributes "class" =
        some (" ".intercalate (grownBy ["a", "b", "a"] ["c", "b", "é", "c"])) := by
  have present : 0 < repeatingBench.drafts.length := by decide
  have keep : ∀ edit ∈ repeatingEdits, edit.KeepsClasses := by decide +kernel
  exact ⟨keep, by decide +kernel, (classes_accumulate present keep (by decide)).1⟩

end Workbench

end CrossRef
