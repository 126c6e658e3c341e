import CrossRef.Proofs.PageName.CollapsedContent

/-!
Characters of zero width: they belong to no name, but they count where a suffix is joined to a text.
A text without them has the name it had before, and a suffix is joined to it as before, unless a
character of zero width stands at the seam and parts what would otherwise be written together.
-/

namespace CrossRef

namespace Text

/-- Two visible characters that touch belong to one word. -/
theorem length_words_touching (first : List Char) {left right : Char}
    (leftVisible : isBlank left = false) (rightVisible : isBlank right = false)
    (rest : List Char) :
    (words (first ++ left :: right :: rest)).length + 1 =
      (words (first ++ [left])).length + (words (right :: rest)).length := by
  have single {c : Char} (visible : isBlank c = false) : IsWord [c] :=
    ⟨List.cons_ne_nil _ _, List.forall_mem_singleton.mpr visible⟩
  induction first with
  | nil =>
      have joined := length_words_append (single leftVisible) (right :: rest)
      simp only [List.singleton_append, List.head?_cons, Option.any_some, rightVisible,
        Bool.not_false, if_true, Nat.add_zero] at joined
      rw [List.nil_append, List.nil_append, joined, words_of_isWord (single leftVisible),
        List.length_singleton, Nat.add_comm]
  | cons head tail ih =>
      by_cases blank : isBlank head
      · rw [List.cons_append, List.cons_append, words_cons_blank blank, words_cons_blank blank, ih]
      · have visible : isBlank head = false := by simpa using blank
        have long := length_words_append (single visible) (tail ++ left :: right :: rest)
        have short := length_words_append (single visible) (tail ++ [left])
        have start : (tail ++ left :: right :: rest).head? = (tail ++ [left]).head? := by
          cases tail <;> rfl
        rw [List.singleton_append] at long short
        rw [List.cons_append, List.cons_append, long, short, start]
        omega

end Text

namespace PageName

/-! Letters that need no space. -/

/-- A character of zero width is visible. -/
theorem isBlank_zeroWidthSpace : Text.isBlank zeroWidthSpace = false := by decide

/-- A character of zero width asks for a space next to it. -/
theorem isUnspaced_zeroWidthSpace : Text.isUnspaced zeroWidthSpace = false := by decide

/-- A character of zero width is no letter that needs no space. -/
theorem isUnspacedLetter_zeroWidthSpace : Text.isUnspacedLetter zeroWidthSpace = false := by decide

/-- The letters that need no space are visible. -/
theorem isBlank_of_isUnspacedLetter {c : Char} (unspaced : Text.isUnspacedLetter c = true) :
    Text.isBlank c = false := by
  simp only [Text.isUnspacedLetter, Text.isHan, Bool.or_eq_true] at unspaced
  rcases unspaced with ((han | hiragana) | katakana) | hangul
  · exact isBlank_of_covers (by decide) han
  · exact isBlank_of_covers (by decide) hiragana
  · exact isBlank_of_covers (by decide) katakana
  · exact isBlank_of_covers (by decide) hangul

/-- The letters that need no space are among the characters that take none. -/
theorem isUnspaced_of_isUnspacedLetter {c : Char} (unspaced : Text.isUnspacedLetter c = true) :
    Text.isUnspaced c = true := by
  rw [Text.isUnspaced, unspaced, Bool.true_or]

/-- No Greek letter goes without spaces. -/
theorem isGreek_of_isUnspaced {c : Char} (unspaced : Text.isUnspaced c = true) :
    isGreek c = false := by
  have spaced : ∀ entry ∈ Text.greekAlphabet, Text.isUnspaced entry.1 = false := by decide
  by_contra greek
  have named : isGreek c = true := by simpa using greek
  obtain ⟨name, found⟩ := Option.isSome_iff_exists.mp named
  have other := spaced _ (mem_greekAlphabet found)
  rw [unspaced] at other
  cases other

/-- A character that takes no space is its own bare text. -/
theorem bare_of_isUnspaced {c : Char} (unspaced : Text.isUnspaced c = true) : bare [c] = [c] := by
  have wide : c ≠ zeroWidthSpace := by
    rintro rfl
    rw [isUnspaced_zeroWidthSpace] at unspaced
    cases unspaced
  have proper : c ≠ fence := by
    rintro rfl
    exact absurd unspaced (by decide)
  simp [bare, unfenced, wide, proper]

/-! Spelling across a seam. -/

/-- Between two characters that are not Greek a text is spelled in two parts. -/
theorem spellAfter_append_other (first : List Char) (before : Option Char) (start : Char)
    {left right : Char} (leftOther : isGreek left = false) (rightOther : isGreek right = false)
    (rest : List Char) :
    spellAfter scanRule before start (first ++ left :: right :: rest) =
      spellAfter scanRule before start (first ++ [left]) ++ spell scanRule (right :: rest) := by
  induction first generalizing before start with
  | nil =>
      have noGap : scanRule (some start) left right = false := by
        simp [scanRule, needsGap, leftOther, rightOther]
      have same : (some left).any isGreek = none.any isGreek := by simp [leftOther]
      rw [List.nil_append, spellAfter, List.nil_append, spellAfter, spellAfter, spellAfter, noGap,
        spellAfter_scanRule_congr same, spell]
      simp
  | cons next first ih =>
      rw [List.cons_append, List.cons_append, spellAfter, spellAfter, ih]
      simp only [List.append_assoc]

/-- The same holds of the whole text. -/
theorem spell_append_other (first : List Char) {left right : Char}
    (leftOther : isGreek left = false) (rightOther : isGreek right = false) (rest : List Char) :
    spell scanRule (first ++ left :: right :: rest) =
      spell scanRule (first ++ [left]) ++ spell scanRule (right :: rest) := by
  have split := spellAfter_append_other first none ' ' leftOther rightOther rest
  rwa [spellAfter_blank none Text.isBlank_space, spellAfter_blank none Text.isBlank_space] at split

/-- A last character that is not Greek is spelled by itself. -/
theorem exists_spellAfter_concat (first : List Char) (before : Option Char) (start : Char)
    {last : Char} (other : isGreek last = false) :
    ∃ earlier, spellAfter scanRule before start (first ++ [last]) = earlier ++ [last] := by
  induction first generalizing before start with
  | nil =>
      rw [List.nil_append, spellAfter, spelling_of_not_isGreek other, spellAfter, List.append_nil]
      exact ⟨_, rfl⟩
  | cons next first ih =>
      obtain ⟨earlier, spelled⟩ := ih (some start) next
      rw [List.cons_append, spellAfter, spelled, ← List.append_assoc]
      exact ⟨_, rfl⟩

/-- Two characters that take no space and touch belong to one word of the name. -/
theorem length_wordsOf_touching (first : List Char) {left right : Char}
    (leftVisible : Text.isBlank left = false) (leftUnspaced : Text.isUnspaced left = true)
    (rightUnspaced : Text.isUnspacedLetter right = true) (rest : List Char) :
    (wordsOf (first ++ left :: right :: rest)).length + 1 =
      (wordsOf (first ++ [left])).length + (wordsOf (right :: rest)).length := by
  have rightKept := isUnspaced_of_isUnspacedLetter rightUnspaced
  have leftOther := isGreek_of_isUnspaced leftUnspaced
  have rightOther := isGreek_of_isUnspaced rightKept
  have bareRest : bare (right :: rest) = right :: bare rest := by
    rw [← List.singleton_append, bare_append, bare_of_isUnspaced rightKept, List.singleton_append]
  have bareFirst : bare (first ++ [left]) = bare first ++ [left] := by
    rw [bare_append, bare_of_isUnspaced leftUnspaced]
  have bareWhole : bare (first ++ left :: right :: rest) =
      bare first ++ left :: right :: bare rest := by
    rw [List.append_cons, bare_append, bareFirst, bareRest, List.append_assoc,
      List.singleton_append]
  obtain ⟨earlier, spelled⟩ := exists_spellAfter_concat (bare first) none ' ' leftOther
  rw [spellAfter_blank none Text.isBlank_space] at spelled
  have spelledRest : spell scanRule (right :: bare rest) =
      right :: spellAfter scanRule none right (bare rest) := by
    rw [spell, spelling_of_not_isGreek rightOther, List.singleton_append]
  rw [wordsOf, wordsOf, wordsOf, bareWhole, bareFirst, bareRest,
    spell_append_other _ leftOther rightOther, spelled, spelledRest, List.append_assoc,
    List.singleton_append]
  exact Text.length_words_touching earlier leftVisible
    (isBlank_of_isUnspacedLetter rightUnspaced) _

/-! Texts without characters of zero width. -/

/-- The text without its characters of zero width. -/
def withoutZeroWidth (text : List Char) : List Char :=
  text.filter (· ≠ zeroWidthSpace)

/-- Two texts without their characters of zero width follow each other. -/
theorem withoutZeroWidth_append (first second : List Char) :
    withoutZeroWidth (first ++ second) = withoutZeroWidth first ++ withoutZeroWidth second :=
  List.filter_append first second

/-- Any other character is kept. -/
theorem withoutZeroWidth_singleton {c : Char} (wide : c ≠ zeroWidthSpace) :
    withoutZeroWidth [c] = [c] :=
  List.filter_cons_of_pos (by simpa using wide)

/-- The names of a text take no notice of its characters of zero width. -/
theorem wordsOf_withoutZeroWidth (text : List Char) :
    wordsOf (withoutZeroWidth text) = wordsOf text := by
  rw [wordsOf, wordsOf, bare, bare, withoutZeroWidth, List.filter_filter]
  simp only [Bool.and_self]

/-- A text that does not end with a character of zero width keeps its end. -/
theorem getLast?_withoutZeroWidth {text : List Char}
    (ends : text.getLast? ≠ some zeroWidthSpace) :
    (withoutZeroWidth text).getLast? = text.getLast? := by
  rcases List.eq_nil_or_concat' text with rfl | ⟨first, last, rfl⟩
  · rfl
  · have wide : last ≠ zeroWidthSpace := by simpa using ends
    rw [withoutZeroWidth_append, withoutZeroWidth_singleton wide, List.getLast?_concat,
      List.getLast?_concat]

/-- A text that does not start with a character of zero width keeps its start. -/
theorem head?_withoutZeroWidth {text : List Char} (starts : text.head? ≠ some zeroWidthSpace) :
    (withoutZeroWidth text).head? = text.head? := by
  cases text with
  | nil => rfl
  | cons head tail =>
      have wide : head ≠ zeroWidthSpace := by simpa using starts
      rw [← List.singleton_append, withoutZeroWidth_append, withoutZeroWidth_singleton wide]
      rfl

/-- The visible characters without those of zero width are what is visible without them. -/
theorem visible_withoutZeroWidth (text : List Char) :
    Text.visible (withoutZeroWidth text) = withoutZeroWidth (Text.visible text) :=
  List.filter_comm ..

/-- A visible last character is the last visible one. -/
theorem getLast?_visible {text : List Char} {last : Char} (ends : text.getLast? = some last)
    (visible : Text.isBlank last = false) : (Text.visible text).getLast? = some last := by
  obtain ⟨first, rfl⟩ := List.getLast?_eq_some_iff.mp ends
  have kept : Text.visible [last] = [last] := List.filter_cons_of_pos (by simpa using visible)
  rw [Text.visible_append, kept, List.getLast?_concat]

/-! Seams. -/

/-- A suffix is joined to a text without a space when the last visible character of the text takes
none and the suffix starts with a letter that needs none. -/
def attaches (text suffix : List Char) : Bool :=
  (Text.visible text).getLast?.any Text.isUnspaced && suffix.head?.any Text.isUnspacedLetter

/-- The last edge of a text asks for no space when its last visible character takes none. -/
theorem last_ofText_eq_cjk_iff (text : List Char) :
    (Edges.ofText text).last = .cjk ↔
      (Text.visible text).getLast?.any Text.isUnspaced = true := by
  rw [Edges.ofText_eq]
  simp only [EdgeKind.ofText, List.head?_reverse]
  cases (Text.visible text).getLast? with
  | none => simp
  | some last => simp [EdgeKind.ofChar]

/-- The words of a text with its suffix are those of one text if the suffix is joined to it, and
otherwise those of the text and then those of the suffix. -/
theorem wordsOf_withSuffix (text : List Char) (suffix : Option String) :
    wordsOf (withSuffix text suffix (Edges.ofText text).last) =
      if attaches text (suffix.getD "").toList then wordsOf (text ++ (suffix.getD "").toList)
      else wordsOf text ++ wordsOf (suffix.getD "").toList := by
  by_cases empty : suffix.getD "" = ""
  · rw [withSuffix_of_empty empty, empty]
    simp [attaches, wordsOf, bare, spell]
  · cases suffix with
    | none => exact absurd rfl empty
    | some suffix =>
        have filled : suffix.isEmpty = false := by simpa using empty
        rw [withSuffix, filled, if_neg Bool.false_ne_true, Option.getD_some]
        by_cases attached : attaches text suffix.toList
        · have joins := attached
          rw [attaches, Bool.and_eq_true, ← last_ofText_eq_cjk_iff] at joins
          rw [if_pos attached, if_pos (by simpa using joins)]
        · have apart := attached
          rw [attaches, Bool.and_eq_true, ← last_ofText_eq_cjk_iff] at apart
          rw [if_neg attached, if_neg (by simpa using apart),
            wordsOf_append_blank text suffix.toList Text.isBlank_space]

/-- A text and its suffix are parted when a character of zero width stands between them, at the end
of the text or at the start of the suffix, and without such characters a visible one that takes no
space would touch a letter that needs none. -/
structure IsParted (text suffix : List Char) : Prop where
  atSeam : text.getLast? = some zeroWidthSpace ∨ suffix.head? = some zeroWidthSpace
  touches : ∃ left right, (withoutZeroWidth text).getLast? = some left ∧
    (withoutZeroWidth suffix).head? = some right ∧ Text.isBlank left = false ∧
    Text.isUnspaced left = true ∧ Text.isUnspacedLetter right = true

section Seam

variable {text suffix : List Char}

/-- A suffix that is joined to a text is still joined without the characters of zero width. -/
theorem attaches_withoutZeroWidth (attached : attaches text suffix = true) :
    attaches (withoutZeroWidth text) (withoutZeroWidth suffix) = true := by
  rw [attaches, Bool.and_eq_true] at attached ⊢
  obtain ⟨unspaced, starts⟩ := attached
  constructor
  · rw [visible_withoutZeroWidth, getLast?_withoutZeroWidth]
    · exact unspaced
    · intro ends
      rw [ends, Option.any_some, isUnspaced_zeroWidthSpace] at unspaced
      cases unspaced
  · rw [head?_withoutZeroWidth]
    · exact starts
    · intro zero
      rw [zero, Option.any_some, isUnspacedLetter_zeroWidthSpace] at starts
      cases starts

/-- A suffix that is joined to a text is not parted from it. -/
theorem not_isParted_of_attaches (attached : attaches text suffix = true) :
    ¬IsParted text suffix := by
  rw [attaches, Bool.and_eq_true] at attached
  rintro ⟨ends | starts, -⟩
  · rw [getLast?_visible ends isBlank_zeroWidthSpace, Option.any_some,
      isUnspaced_zeroWidthSpace] at attached
    cases attached.1
  · rw [starts, Option.any_some, isUnspacedLetter_zeroWidthSpace] at attached
    cases attached.2

/-- A suffix that is parted from a text is joined to it without the characters of zero width. -/
theorem IsParted.attaches (parted : IsParted text suffix) :
    attaches (withoutZeroWidth text) (withoutZeroWidth suffix) = true := by
  obtain ⟨-, left, right, ends, starts, visible, unspaced, letter⟩ := parted
  rw [PageName.attaches, getLast?_visible ends visible, starts, Option.any_some, Option.any_some,
    unspaced, letter]
  rfl

/-- The words at the seam of a text and a suffix that is parted from it are two, and they would be
one if the two were written together. -/
theorem IsParted.length_wordsOf (parted : IsParted text suffix) :
    (wordsOf (text ++ suffix)).length + 1 =
      (wordsOf text).length + (wordsOf suffix).length := by
  obtain ⟨-, left, right, ends, starts, visible, unspaced, letter⟩ := parted
  obtain ⟨first, first_eq⟩ := List.getLast?_eq_some_iff.mp ends
  obtain ⟨rest, rest_eq⟩ := List.head?_eq_some_iff.mp starts
  rw [← wordsOf_withoutZeroWidth (text ++ suffix), ← wordsOf_withoutZeroWidth text,
    ← wordsOf_withoutZeroWidth suffix, withoutZeroWidth_append, first_eq, rest_eq,
    List.append_assoc, List.singleton_append]
  exact length_wordsOf_touching first visible unspaced letter rest

/-- A suffix that is joined to a text without the characters of zero width only, and that is not
parted from it, stands behind a blank character. -/
theorem wordsOf_append_of_not_isParted (apart : attaches text suffix = false)
    (attached : attaches (withoutZeroWidth text) (withoutZeroWidth suffix) = true)
    (whole : ¬IsParted text suffix) :
    wordsOf (text ++ suffix) = wordsOf text ++ wordsOf suffix := by
  rw [attaches, Bool.and_eq_true] at attached
  obtain ⟨ends, starts⟩ := attached
  obtain ⟨last, seen, unspaced⟩ := (Option.any_eq_true _ _).mp ends
  obtain ⟨right, head, letter⟩ := (Option.any_eq_true _ _).mp starts
  rcases List.eq_nil_or_concat' (withoutZeroWidth text) with empty | ⟨first, left, equal⟩
  · rw [empty] at seen
    cases seen
  · by_cases blank : Text.isBlank left
    · have before : wordsOf text = wordsOf first := by
        rw [← wordsOf_withoutZeroWidth text, equal, wordsOf_append_blank first [] blank]
        exact List.append_nil _
      rw [← wordsOf_withoutZeroWidth (text ++ suffix), withoutZeroWidth_append, equal,
        List.append_assoc, List.singleton_append, wordsOf_append_blank first _ blank,
        wordsOf_withoutZeroWidth, before]
    · -- Nothing stands at the seam, so that the text and the suffix touch as they are.
      have visible : Text.isBlank left = false := by simpa using blank
      have final : (withoutZeroWidth text).getLast? = some left := by
        rw [equal, List.getLast?_concat]
      obtain rfl : left = last := by
        rw [getLast?_visible final visible] at seen
        exact Option.some.inj seen
      have clear : ¬(text.getLast? = some zeroWidthSpace ∨ suffix.head? = some zeroWidthSpace) :=
        fun atSeam => whole ⟨atSeam, left, right, final, head, visible, unspaced, letter⟩
      rw [not_or] at clear
      rw [getLast?_withoutZeroWidth clear.1] at final
      rw [head?_withoutZeroWidth clear.2] at head
      rw [attaches, getLast?_visible final visible, head, Option.any_some, Option.any_some,
        unspaced, letter] at apart
      cases apart

/-- Without the characters of zero width the words of a text with its suffix are the same, unless
the two are parted. -/
theorem wordsOf_seam_iff :
    ((if attaches text suffix then wordsOf (text ++ suffix)
      else wordsOf text ++ wordsOf suffix) =
        if attaches (withoutZeroWidth text) (withoutZeroWidth suffix) then wordsOf (text ++ suffix)
        else wordsOf text ++ wordsOf suffix) ↔ ¬IsParted text suffix := by
  cases attached : attaches text suffix with
  | true =>
      rw [attaches_withoutZeroWidth attached]
      exact iff_of_true rfl (not_isParted_of_attaches attached)
  | false =>
      cases joined : attaches (withoutZeroWidth text) (withoutZeroWidth suffix) with
      | false =>
          refine iff_of_true rfl fun parted => ?_
          rw [parted.attaches] at joined
          cases joined
      | true =>
          constructor
          · intro same parted
            have lengths := parted.length_wordsOf
            have equal : wordsOf text ++ wordsOf suffix = wordsOf (text ++ suffix) := same
            rw [← equal, List.length_append] at lengths
            omega
          · exact fun whole => (wordsOf_append_of_not_isParted attached joined whole).symm

end Seam

end PageName

end CrossRef
