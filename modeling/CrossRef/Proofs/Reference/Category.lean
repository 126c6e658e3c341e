import CrossRef.Proofs.PageName.Start
import CrossRef.Proofs.Reference.Normalised

/-!
Category prefixes: a prefix is compared with the page that is inferred and not with the content, so
it marks the contents that start with it only if it could start a page itself.
-/

namespace CrossRef

namespace Reference

/-- A reference that infers its page from its content alone has no suffix, no address and no
target. -/
structure InfersFromContent (reference : Reference) : Prop where
  infersPage : reference.binding.infersPage = true
  noSuffix : reference.binding.pageSuffix.getD "" = ""
  noUrl : reference.binding.url.getD "" = ""
  noTarget : reference.target = none

/-- The page that such a reference infers is the name of its text. -/
theorem page_namedBinding {reference : Reference} (infers : reference.InfersFromContent) :
    reference.namedBinding.page = some (PageName.nameOf reference.paragraph.text) := by
  rw [namedBinding, infers.infersPage, if_pos rfl, PageName.pageName_eq_nameOf,
    PageName.withSuffix_of_empty infers.noSuffix, String.ofList_toList]

/-- Without a target and an address a reference resolves to a page that is looked up. -/
theorem resolveNow_of_aimless {reference : Reference} (noUrl : reference.binding.url.getD "" = "")
    (noTarget : reference.target = none) (categoryPrefixes : List String) :
    reference.resolveNow categoryPrefixes =
      resolveNow.lookupOf categoryPrefixes reference := by
  rw [resolveNow, noTarget]
  cases bound : reference.binding.url with
  | none => rfl
  | some url =>
      rw [bound, Option.getD_some] at noUrl
      rw [noUrl]
      rfl

/-- An inferred page is a category when it has text and starts with one of the prefixes. -/
theorem isCategory_iff {reference : Reference} (infers : reference.binding.infersPage = true)
    {page : String} (named : reference.binding.page = some page) (categoryPrefixes : List String) :
    reference.isCategory categoryPrefixes = true ↔
      page ≠ "" ∧ ∃ start ∈ categoryPrefixes, start.toList <+: page.toList := by
  simp [isCategory, startsWithAny, infers, named]

/-- Normalised for one prefix, such a reference resolves to a page that is looked up, and the page
is a category exactly when the name of the text starts with the prefix. -/
theorem exists_query_normalise {reference : Reference} (infers : reference.InfersFromContent)
    {start : String} (filled : start ≠ "") :
    ∃ query, (reference.normalise [start]).resolution = some (.lookup query) ∧
      (query.isCategory = true ↔
        start.toList <+: PageName.ofChars reference.paragraph.text.toList) := by
  have lookup := @resolveNow_of_aimless { reference with binding := reference.namedBinding }
    infers.noUrl infers.noTarget [start]
  have marked := @isCategory_iff { reference with binding := reference.namedBinding }
    infers.infersPage _ (page_namedBinding infers) [start]
  have name : (PageName.nameOf reference.paragraph.text).toList =
      PageName.ofChars reference.paragraph.text.toList := by
    rw [PageName.nameOf, PageName.pageName_ofText, String.toList_ofList]
  rw [normalise_eq]
  refine ⟨_, congrArg some lookup, marked.trans ?_⟩
  rw [name]
  constructor
  · rintro ⟨-, only, member, starts⟩
    rwa [List.mem_singleton.mp member] at starts
  · intro starts
    refine ⟨?_, start, List.mem_singleton_self start, starts⟩
    intro empty
    rw [← name, empty] at starts
    exact filled (String.toList_eq_nil_iff.mp (List.prefix_nil.mp starts))

/-! Main result. -/

/-- A prefix marks every content that starts with it, in a reference that infers its page from its
content alone, exactly when it is its own page name, so when it is canonical. A prefix that is not
canonical does not even mark the content that consists of it alone. -/
theorem marksContents_iff_isCanonical (start : String) (filled : start ≠ "") :
    ((∀ reference : Reference, reference.InfersFromContent →
        start.toList <+: reference.paragraph.text.toList →
        ∃ query, (reference.normalise [start]).resolution = some (.lookup query) ∧
          query.isCategory = true) ↔
      ∀ edge, (Paragraph.ofText start).pageName none edge = start) ∧
    ((∀ edge, (Paragraph.ofText start).pageName none edge = start) ↔
      PageName.IsCanonical start.toList) ∧
    (¬PageName.IsCanonical start.toList → ∀ reference : Reference, reference.InfersFromContent →
      reference.paragraph.text = start →
      ∃ query, (reference.normalise [start]).resolution = some (.lookup query) ∧
        query.isCategory = false) := by
  have fixed : (∀ edge, (Paragraph.ofText start).pageName none edge = start) ↔
      PageName.IsCanonical start.toList := by
    simp only [PageName.pageName_ofText_eq_iff]
    exact ⟨fun canonical => canonical .letter, fun canonical _ => canonical⟩
  refine ⟨?_, fixed, ?_⟩
  · rw [fixed]
    constructor
    · intro marks
      have bound : InfersFromContent
          { paragraph := .ofText start, binding := { infersPage := true } } := ⟨rfl, rfl, rfl, rfl⟩
      have alone : (Paragraph.ofText start).text = start := PageName.text_ofText start
      obtain ⟨query, resolved, starts⟩ := exists_query_normalise bound filled
      obtain ⟨other, same, marked⟩ := marks _ bound (by rw [alone])
      obtain rfl := Resolution.lookup.inj (Option.some.inj (same.symm.trans resolved))
      rw [starts, alone, PageName.prefix_ofChars_iff] at marked
      exact marked
    · rintro canonical reference infers ⟨rest, whole⟩
      obtain ⟨query, resolved, starts⟩ := exists_query_normalise infers filled
      refine ⟨query, resolved, starts.mpr ?_⟩
      rw [← whole]
      exact PageName.prefix_ofChars_append canonical rest
  · rintro other reference infers alone
    obtain ⟨query, resolved, starts⟩ := exists_query_normalise infers filled
    refine ⟨query, resolved, ?_⟩
    rw [alone, PageName.prefix_ofChars_iff] at starts
    exact Bool.eq_false_iff.mpr fun marked => other (starts.mp marked)

/-- A prefix with a trailing space is not canonical, and does not mark the content that consists of
it alone. -/
theorem marksContents_iff_isCanonical_space :
    let start := "Kategorie: "
    let reference :=
      ({ paragraph := .ofText start } : Reference).enter [[("ref-infer-page", "yes")]]
    start ≠ "" ∧ ¬PageName.IsCanonical start.toList ∧ reference.InfersFromContent ∧
      reference.paragraph.text = start ∧
      ∃ query, (reference.normalise [start]).resolution = some (.lookup query) ∧
        query.isCategory = false := by
  intro start reference
  have filled : start ≠ "" := by decide
  have other : ¬PageName.IsCanonical start.toList := fun canonical =>
    absurd canonical.noTrailing (by decide)
  have infers : reference.InfersFromContent := ⟨by decide, rfl, rfl, rfl⟩
  have alone : reference.paragraph.text = start := rfl
  exact ⟨filled, other, infers, alone,
    (marksContents_iff_isCanonical start filled).2.2 other reference infers alone⟩

end Reference

end CrossRef
