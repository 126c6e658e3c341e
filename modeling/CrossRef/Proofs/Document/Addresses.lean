import CrossRef.Proofs.Document.Registers
import CrossRef.Proofs.Output.Elements
import CrossRef.Proofs.Reference.Resolution

/-!
Addresses in a run: the one place where an address is admitted is the entering of a reference, which
puts it into the register of the tree. Every address that a reference is bound to, stores in its
resolution or shows in its output can be traced back to such an entering, however often and in
whatever order the reference is entered, normalised and aimed.
-/

namespace CrossRef

/-! Admission. -/

/-- A web address starts with one of two schemes and a word character. -/
def IsWebAddress (url : String) : Prop :=
  ∃ scheme ∈ ["http://", "https://"], ∃ c rest,
    url.toList = scheme.toList ++ c :: rest ∧ Text.isWord c = true

namespace Admission

/-- The external addresses are the web addresses. -/
theorem isExternal_iff (text : List Char) :
    isExternal text = true ↔ ∃ scheme ∈ ["http://", "https://"], ∃ c rest,
      text = scheme.toList ++ c :: rest ∧ Text.isWord c = true := by
  constructor
  · intro external
    unfold isExternal at external
    split at external
    · next rest =>
        dsimp only at external
        split at external
        · next c more after =>
            split at after
            · subst after
              exact ⟨"https://", by simp, c, more, rfl, external⟩
            · subst after
              exact ⟨"http://", by simp, c, more, rfl, external⟩
        · cases external
    · cases external
  · rintro ⟨scheme, member, c, rest, rfl, word⟩
    rcases List.mem_cons.mp member with rfl | later
    · exact word
    · obtain rfl := List.mem_singleton.mp later
      exact word

/-- Only a web address is kept. -/
theorem isWebAddress_of_url? {declared : Option String} {url : String}
    (kept : (ofUrl? declared).url? = some url) : IsWebAddress url := by
  cases declared with
  | none => cases kept
  | some text =>
      rw [ofUrl?] at kept
      split at kept
      · cases kept
      · split at kept
        · next external =>
            obtain rfl : text = url := Option.some.inj kept
            exact (isExternal_iff text.toList).mp external
        · cases kept

end Admission

namespace Reference

/-- Normalising leaves the address alone. -/
theorem url_normalise (reference : Reference) (categoryPrefixes : List String) :
    (reference.normalise categoryPrefixes).binding.url = reference.binding.url := by
  change reference.normaliseContent.binding.url = reference.binding.url
  rw [normaliseContent]
  split <;> rfl

/-- An address that is resolved to is the one that the reference stores or is bound to. -/
theorem url_of_resolve {reference : Reference} {categoryPrefixes : List String} {url : String}
    (external : reference.resolve categoryPrefixes = .externalUrl url) :
    reference.resolution = some (.externalUrl url) ∨ reference.binding.url = some url := by
  rw [resolve] at external
  split at external
  · next resolution stored =>
      split at external
      · rw [stored, external]
        exact Or.inl rfl
      · exact Or.inr (url_of_resolveNow external)
  · exact Or.inr (url_of_resolveNow external)

/-- An address in the output leads to a bookmark, or it is the external address that the reference
resolves to. -/
theorem Shows.href {labels : LabelId → Label} {presentation : Presentation}
    {resolution : Resolution} {head : Head} (shows : Shows labels presentation resolution head)
    {href : String} (declared : ("href", href) ∈ head.attributes) :
    (∃ label, href = bookmarkAddress (labels label).bookmark) ∨
      resolution = .externalUrl href := by
  have named : "href" ∈ Entries.names head.attributes := List.mem_map_of_mem declared
  cases shows with
  | span _ style =>
      have known := (style.names_attributes presentation).subset named
      exact absurd known (by decide)
  | bookmark label =>
      obtain rfl := (Prod.mk.inj (List.mem_singleton.mp declared)).2
      exact Or.inl ⟨label, rfl⟩
  | address url =>
      obtain rfl : href = url := by simpa using declared
      exact Or.inr rfl
  | place query =>
      have known := (names_queryAttributes query).subset named
      exact absurd known (by decide)
  | link query =>
      have known := (names_linkAttributes query).subset named
      exact absurd known (by decide)

end Reference

namespace Document

/-! Single steps. -/

/-- A reference is bound to the address that it was bound to, or to the one that its scope
admits. -/
theorem url_effect {document : Document} {node : NodeId} {step : Step} {reference : Reference}
    {url : String} (bound : (step.effect document node reference).binding.url = some url) :
    reference.binding.url = some url ∨
      ∃ scope, step = .enter node scope ∧ (document.chain scope).admission.url? = some url := by
  cases step with
  | enter other scope =>
      by_cases same : other = node
      · subst same
        simp only [Step.effect, if_true] at bound
        exact Or.inr ⟨scope, rfl, bound⟩
      · simp only [Step.effect, same, if_false] at bound
        exact Or.inl bound
  | normalise other categoryPrefixes =>
      rw [Step.effect] at bound
      split at bound
      · rw [Reference.url_normalise] at bound
        exact Or.inl bound
      · exact Or.inl bound
  | aim other target =>
      rw [Step.effect] at bound
      split at bound
      · rw [Reference.setTarget_eq] at bound
        exact Or.inl bound
      · exact Or.inl bound
  | appendContent other content =>
      rw [Step.effect] at bound
      split at bound <;> exact Or.inl bound
  | _ => exact Or.inl bound

/-- A stored address was stored before, or it is the one that the reference was bound to. -/
theorem storedUrl_effect {document : Document} {node : NodeId} {step : Step} {reference : Reference}
    {url : String}
    (stored : (step.effect document node reference).resolution = some (.externalUrl url)) :
    reference.resolution = some (.externalUrl url) ∨ reference.binding.url = some url := by
  cases step with
  | normalise other categoryPrefixes =>
      rw [Step.effect] at stored
      split at stored
      · have bound := Reference.url_of_resolveNow (Option.some.inj stored)
        exact Or.inr ((reference.url_normalise categoryPrefixes).symm.trans bound)
      · exact Or.inl stored
  | aim other target =>
      rw [Step.effect] at stored
      split at stored
      · rw [Reference.setTarget_eq] at stored
        obtain ⟨_, -, resolved⟩ := Option.map_eq_some_iff.mp stored
        have bound := Reference.url_of_resolveNow resolved
        exact Or.inr bound
      · exact Or.inl stored
  | enter | appendContent =>
      rw [Step.effect] at stored
      split at stored <;> exact Or.inl stored
  | _ => exact Or.inl stored

/-! Whole runs. -/

/-- Entering the reference in the scope put the address into the register of the tree. -/
def Registers (steps : List Step) (node : NodeId) (scope : ScopeId) (url : String) : Prop :=
  ∃ before after, steps = before ++ .enter node scope :: after ∧
    (blank.run (before ++ [.enter node scope])).links scope =
      (blank.run before).links scope ++ [url]

/-- What was registered stays registered. -/
theorem Registers.concat {steps : List Step} {node : NodeId} {scope : ScopeId} {url : String}
    (registered : Registers steps node scope url) (step : Step) :
    Registers (steps ++ [step]) node scope url := by
  obtain ⟨before, after, rfl, added⟩ := registered
  exact ⟨before, after ++ [step], by simp, added⟩

/-- An address that is admitted is registered. -/
theorem registers_of_admission {steps : List Step} (node : NodeId) {scope : ScopeId} {url : String}
    (admits : ((blank.run steps).chain scope).admission.url? = some url) :
    Registers (steps ++ [.enter node scope]) node scope url := by
  refine ⟨steps, [], rfl, ?_⟩
  rw [run_concat, links_enter (hasTrees_run steps), admits]
  rfl

/-- Only a scope that is there admits an address. -/
theorem lt_of_admission {document : Document} {scope : ScopeId} {url : String}
    (admits : (document.chain scope).admission.url? = some url) :
    scope < document.scopes.length := by
  by_contra absent
  rw [chain, scope_of_le (Nat.le_of_not_lt absent)] at admits
  cases admits

/-- A registered address is seen from the scope as long as the run goes on. -/
theorem Registers.mem_links {steps : List Step} {node : NodeId} {scope : ScopeId} {url : String}
    (registered : Registers steps node scope url) : url ∈ (blank.run steps).links scope := by
  obtain ⟨before, after, rfl, added⟩ := registered
  have entered := links_enter (hasTrees_run before) node scope
  rw [← run_concat, added, List.append_cancel_left_eq] at entered
  have admits : ((blank.run before).chain scope).admission.url? = some url := by
    simpa [Option.toList_eq_singleton_iff] using entered.symm
  have present : scope < (blank.run (before ++ [.enter node scope])).scopes.length := by
    rw [run_concat]
    exact Nat.lt_of_lt_of_le (lt_of_admission admits) (length_scopes_step _ _)
  have member : url ∈ (blank.run (before ++ [.enter node scope])).links scope := by
    rw [added]
    exact List.mem_append_right _ List.mem_cons_self
  have whole : before ++ .enter node scope :: after = (before ++ [.enter node scope]) ++ after := by
    simp
  rw [whole, run_append]
  exact mem_links_run (hasTrees_run _) present member after

/-- The address that a reference is bound to, and the one that it stores, were registered when it
was entered. -/
theorem registers_of_run (steps : List Step) (node : NodeId) :
    (∀ url, ((blank.run steps).reference node).binding.url = some url →
      ∃ scope, Registers steps node scope url) ∧
    ∀ url, ((blank.run steps).reference node).resolution = some (.externalUrl url) →
      ∃ scope, Registers steps node scope url := by
  refine reference_run node
    (fun steps reference =>
      (∀ url, reference.binding.url = some url → ∃ scope, Registers steps node scope url) ∧
      ∀ url, reference.resolution = some (.externalUrl url) →
        ∃ scope, Registers steps node scope url)
    (fun _ _ => ⟨nofun, nofun⟩) (fun steps step known => ?_) steps
  obtain ⟨bound, stored⟩ := known
  refine ⟨fun url later => ?_, fun url later => ?_⟩
  · rcases url_effect later with before | ⟨scope, rfl, admits⟩
    · obtain ⟨scope, registered⟩ := bound url before
      exact ⟨scope, registered.concat step⟩
    · exact ⟨scope, registers_of_admission node admits⟩
  · rcases storedUrl_effect later with before | before
    · obtain ⟨scope, registered⟩ := stored url before
      exact ⟨scope, registered.concat step⟩
    · obtain ⟨scope, registered⟩ := bound url before
      exact ⟨scope, registered.concat step⟩

/-- Every address that a step adds to a tree is a web address. -/
theorem isWebAddress_of_mem_admitted {document : Document} {tree : Nat} {step : Step} {url : String}
    (member : url ∈ step.admitted document tree) : IsWebAddress url := by
  cases step with
  | enter node scope =>
      rw [Step.admitted] at member
      split at member
      · exact Admission.isWebAddress_of_url? (Option.mem_toList.mp member)
      · cases member
  | _ => cases member

/-- The registers hold web addresses alone. -/
theorem isWebAddress_of_mem_linksOf (steps : List Step) {tree : Nat} {url : String}
    (member : url ∈ (blank.run steps).linksOf tree) : IsWebAddress url := by
  induction steps using List.reverseRecOn with
  | nil => cases tree <;> cases member
  | append_singleton steps step ih =>
      rw [run_concat] at member
      by_cases present : tree < (blank.run steps).trees.length
      · rw [linksOf_step _ present, List.mem_append] at member
        exact member.elim ih isWebAddress_of_mem_admitted
      · rw [linksOf_step_of_le (Nat.le_of_not_lt present)] at member
        cases member

/-! Main result. -/

/-- Whatever the run, the registers hold web addresses alone, and the address that a reference is
bound to or stores was put into the register of its tree when the reference was entered. So an
address in the output of a reference leads to a bookmark, or it is a web address from the register
of a tree that the reference was entered in. -/
theorem addresses_registered (steps : List Step) :
    let document := blank.run steps
    (∀ scope, ∀ url ∈ document.links scope, IsWebAddress url) ∧
    ∀ node,
      (∀ url, (document.reference node).binding.url = some url →
        ∃ scope, Registers steps node scope url) ∧
      (∀ url, (document.reference node).resolution = some (.externalUrl url) →
        ∃ scope, Registers steps node scope url) ∧
      ∀ presentation, ∀ head ∈ Node.headsOfList (document.output node presentation),
        ∀ href, ("href", href) ∈ head.attributes →
          (∃ label, href = "#" ++ Text.percentEncoded (document.label label).bookmark) ∨
          IsWebAddress href ∧ ∃ scope, Registers steps node scope href ∧
            href ∈ document.links scope := by
  intro document
  refine ⟨fun scope url member => isWebAddress_of_mem_linksOf steps member, fun node => ?_⟩
  obtain ⟨bound, stored⟩ := registers_of_run steps node
  refine ⟨bound, stored, fun presentation head member href declared => ?_⟩
  have shows := Reference.shows_of_mem_outputFor member
  rcases shows.href declared with bookmark | external
  · exact Or.inl bookmark
  · have known : ∃ scope, Registers steps node scope href :=
      (Reference.url_of_resolve external).elim (stored href) (bound href)
    obtain ⟨scope, registered⟩ := known
    have seen := registered.mem_links
    exact Or.inr ⟨isWebAddress_of_mem_linksOf steps seen, scope, registered, seen⟩

/-- An address stays in the resolution of a reference, and in its output, when the reference is
entered again in a scope whose address is rejected. -/
theorem addresses_of_reentered :
    let steps : List Step :=
      [.declare 0 "ref-url" "http://a", .newReference [.run "A"], .enter 0 0, .normalise 0 [],
        .declare 0 "ref-url" "javascript:a", .enter 0 0]
    let document := blank.run steps
    document.links 0 = ["http://a"] ∧ (document.reference 0).binding.url = none ∧
      (document.reference 0).resolution = some (.externalUrl "http://a") ∧
      (∃ scope, Registers steps 0 scope "http://a") ∧
      ⟨"a", [("class", "external"), ("href", "http://a")]⟩ ∈
        Node.headsOfList (document.output 0 { categoryPrefixes := [] }) ∧
      ((∃ label, "http://a" = "#" ++ Text.percentEncoded (document.label label).bookmark) ∨
        IsWebAddress "http://a" ∧ ∃ scope, Registers steps 0 scope "http://a" ∧
          "http://a" ∈ document.links scope) := by
  intro steps document
  have stored : (document.reference 0).resolution = some (.externalUrl "http://a") := rfl
  have shown : ⟨"a", [("class", "external"), ("href", "http://a")]⟩ ∈
      Node.headsOfList (document.output 0 { categoryPrefixes := [] }) :=
    List.mem_cons_of_mem _ List.mem_cons_self
  obtain ⟨-, known⟩ := addresses_registered steps
  obtain ⟨-, registered, traced⟩ := known 0
  exact ⟨rfl, rfl, stored, registered _ stored, shown,
    traced _ _ shown "http://a" (List.mem_cons_of_mem _ List.mem_cons_self)⟩

end Document

end CrossRef
