import CrossRef.Proofs.PageName.BlankContent
import CrossRef.Proofs.PageName.Canonical
import CrossRef.Proofs.Text.Composition.Stable

/-!
The page of a normalised reference: a page that is given is composed, and a page that is inferred
is not composed again, so it is composed where content and suffix hold stable characters only.
-/

namespace CrossRef

open Text.Composition (IsStable isStable_of_ascii)

/-! Where the characters of a page come from. -/

namespace PageName

/-- A character of a spelling is the spelled character, or a letter of a name. -/
theorem eq_or_isAlphanum_of_mem_spelling {original c : Char} (member : c ∈ spelling original) :
    c = original ∨ c.isAlphanum = true := by
  by_cases greek : isGreek original
  · obtain ⟨-, -, -, -, letters⟩ := spelling_of_isGreek greek
    exact Or.inr (letters c member)
  · rw [spelling_of_not_isGreek (by simpa using greek), List.mem_singleton] at member
    exact Or.inl member

/-- A character of bare text is a space, or stands in the text. -/
theorem mem_of_mem_bare {text : List Char} {c : Char} (member : c ∈ bare text) :
    c = ' ' ∨ c ∈ text := by
  obtain ⟨original, found, rfl⟩ := List.mem_map.mp member
  rw [unfenced]
  split
  · exact Or.inl rfl
  · exact Or.inr (List.mem_of_mem_filter found)

/-- A name of a text of stable characters holds stable characters only. -/
theorem isStable_of_mem_ofChars {text : List Char} (stable : ∀ c ∈ text, IsStable c) {c : Char}
    (member : c ∈ ofChars text) : IsStable c := by
  have space : IsStable ' ' := isStable_of_ascii (by decide)
  rw [ofChars_eq_spell] at member
  rcases Text.mem_collapseFrom ((Text.trim_isInfix _).subset member) with rfl | ⟨inside, -⟩
  · exact space
  · rcases mem_spell inside with rfl | ⟨original, found, spelled⟩
    · exact space
    · rcases eq_or_isAlphanum_of_mem_spelling spelled with rfl | letter
      · rcases mem_of_mem_bare found with rfl | given
        · exact space
        · exact stable c given
      · have ranges := toNat_of_isAlphanum letter
        exact isStable_of_ascii (by omega)

/-- A character of a text with a suffix is a space, or stands in one of the two. -/
theorem mem_withSuffix {text : List Char} {suffix : Option String} {edge : EdgeKind} {c : Char}
    (member : c ∈ withSuffix text suffix edge) :
    c = ' ' ∨ c ∈ text ∨ c ∈ (suffix.getD "").toList := by
  cases suffix with
  | none => exact Or.inr (Or.inl member)
  | some suffix =>
      rw [withSuffix] at member
      split at member
      · exact Or.inr (Or.inl member)
      · split at member
        · exact Or.inr (List.mem_append.mp member)
        · simp only [List.mem_append, List.mem_cons] at member
          rw [Option.getD_some]
          tauto

end PageName

/-- A character of collapsed content is a space, or stands in the content. -/
theorem Paragraph.mem_text_normalised {paragraph : Paragraph} {c : Char}
    (member : c ∈ paragraph.normalised.text.toList) :
    c = ' ' ∨ c ∈ paragraph.text.toList := by
  obtain ⟨content⟩ := paragraph
  change c ∈ (Inline.textOfList (content.map Inline.collapsed)).toList at member
  change c = ' ' ∨ c ∈ (Inline.textOfList content).toList
  induction content with
  | nil => exact Or.inr member
  | cons piece rest ih =>
      rw [List.map_cons, Inline.textOfList, String.toList_append, List.mem_append] at member
      rw [Inline.textOfList, String.toList_append, List.mem_append]
      rcases member with inside | later
      · cases piece with
        | run text =>
            rw [Inline.collapsed, Inline.text, String.toList_ofList] at inside
            rcases Text.mem_collapseFrom inside with space | ⟨given, -⟩
            · exact Or.inl space
            · exact Or.inr (Or.inl given)
        | span style content => exact Or.inr (Or.inl inside)
      · exact (ih later).imp_right Or.inr

namespace Reference

/-- A reference that does not infer its page has the composed form of the given one. -/
theorem page_normalise_of_given {reference : Reference}
    (given : reference.binding.infersPage = false) (categoryPrefixes : List String) :
    (reference.normalise categoryPrefixes).binding.page =
      reference.binding.page.map Text.composed := by
  rw [normalise, normaliseContent]
  split <;> simp [normalisePage, given]

/-- After normalising, a page is composed if it was given, and also if it is inferred from content
and a suffix that hold stable characters only. -/
theorem page_isComposed (reference : Reference) (chain : ScopeChain)
    (categoryPrefixes : List String) {page : String}
    (named : ((reference.enter chain).normalise categoryPrefixes).binding.page = some page)
    (stable : chain.binding.infersPage = true →
      ∀ c ∈ reference.paragraph.text.toList ++ (chain.binding.pageSuffix.getD "").toList,
        IsStable c) :
    Text.IsComposed page := by
  cases infers : chain.binding.infersPage with
  | false =>
      rw [page_normalise_of_given infers] at named
      obtain ⟨given, -, rfl⟩ := Option.map_eq_some_iff.mp named
      exact Text.isComposed_composed given
  | true =>
      rw [page_normalise infers, Option.some.injEq] at named
      subst named
      refine Text.isComposed_of_isStable fun c member => ?_
      rw [Paragraph.pageName, String.toList_ofList] at member
      refine PageName.isStable_of_mem_ofChars (fun other found => ?_) member
      have space : IsStable ' ' := isStable_of_ascii (by decide)
      rcases PageName.mem_withSuffix found with rfl | content | suffix
      · exact space
      · rcases Paragraph.mem_text_normalised content with rfl | given
        · exact space
        · exact stable infers other (List.mem_append_left _ given)
      · exact stable infers other (List.mem_append_right _ suffix)

/-- A scope that asks for an inferred page with a Greek suffix. -/
def accentedScope : ScopeChain :=
  [[("ref-infer-page", "true"), ("ref-page-suffix", "α")]]

/-- An accented letter that is one character is stable. -/
theorem page_isComposed_accented :
    ((({ paragraph := .ofText "Crème" } : Reference).enter accentedScope).normalise
        ["Category:"]).binding.page = some "Crème alpha" ∧
      (∀ c ∈ "Crème".toList ++ "α".toList, IsStable c) ∧
      Text.IsComposed "Crème alpha" := by
  have named : ((({ paragraph := .ofText "Crème" } : Reference).enter accentedScope).normalise
      ["Category:"]).binding.page = some "Crème alpha" := by decide +kernel
  have checked : ("Crème".toList ++ "α".toList).all (fun c => decide (IsStable c)) = true := by
    decide +kernel
  have stable : ∀ c ∈ "Crème".toList ++ "α".toList, IsStable c := fun c member =>
    of_decide_eq_true (List.all_eq_true.mp checked c member)
  exact ⟨named, stable, page_isComposed _ accentedScope _ named fun _ => stable⟩

/-- An accent that stands apart in the content stands apart in the page that is inferred. -/
theorem page_not_isComposed :
    ∃ (reference : Reference) (chain : ScopeChain) (categoryPrefixes : List String) (page : String),
      ((reference.enter chain).normalise categoryPrefixes).binding.page = some page ∧
        ¬Text.IsComposed page :=
  ⟨{ paragraph := .ofText "e\u0301" }, [[("ref-infer-page", "true")]], [], "e\u0301",
    by decide +kernel⟩

end Reference

end CrossRef
