import CrossRef.Text.Blank
import Mathlib.Data.List.DropRight

/-!
Words: a text that is collapsed and trimmed is its words with one space between them, so the words
are all that collapsing and trimming keep of a text.
-/

namespace CrossRef.Text

/-- A word has characters, and none of them is blank. -/
def IsWord (word : List Char) : Prop :=
  word ≠ [] ∧ ∀ c ∈ word, isBlank c = false

/-- The space between words is blank. -/
theorem isBlank_space : isBlank ' ' = true := by decide

/-! Splitting. -/

attribute [local simp] cut

/-- There is always a first piece. -/
theorem cut_eq_cons (text : List Char) : ∃ piece pieces, cut text = piece :: pieces := by
  cases text with
  | nil => exact ⟨[], [], rfl⟩
  | cons c rest =>
      by_cases blank : isBlank c
      · exact ⟨[], cut rest, by simp [blank]⟩
      · cases equal : cut rest with
        | nil => exact ⟨[c], [], by simp [blank, equal]⟩
        | cons piece pieces => exact ⟨c :: piece, pieces, by simp [blank, equal]⟩

/-- A blank character ends an empty piece. -/
theorem cut_cons_blank {c : Char} (blank : isBlank c = true) (rest : List Char) :
    cut (c :: rest) = [] :: cut rest := by
  simp [blank]

/-- A visible character belongs to the first piece. -/
theorem cut_cons_visible {c : Char} (visible : isBlank c = false) {rest piece : List Char}
    {pieces : List (List Char)} (equal : cut rest = piece :: pieces) :
    cut (c :: rest) = (c :: piece) :: pieces := by
  simp [visible, equal]

/-- Both sides of a blank character are cut on their own. -/
theorem cut_append_blank (first rest : List Char) {c : Char} (blank : isBlank c = true) :
    cut (first ++ c :: rest) = cut first ++ cut rest := by
  induction first with
  | nil => simp [blank]
  | cons head tail ih =>
      by_cases headBlank : isBlank head
      · rw [List.cons_append, cut_cons_blank headBlank, cut_cons_blank headBlank, ih,
          List.cons_append]
      · have visible : isBlank head = false := by simpa using headBlank
        obtain ⟨piece, pieces, equal⟩ := cut_eq_cons tail
        rw [equal, List.cons_append] at ih
        rw [List.cons_append, cut_cons_visible visible ih, cut_cons_visible visible equal,
          List.cons_append]

@[simp] theorem words_nil : words [] = [] := rfl

/-- No word reaches across a blank character. -/
theorem words_append_blank (first rest : List Char) {c : Char} (blank : isBlank c = true) :
    words (first ++ c :: rest) = words first ++ words rest := by
  simp only [words, cut_append_blank first rest blank, List.filter_append]

/-- A blank character in front belongs to no word. -/
theorem words_cons_blank {c : Char} (blank : isBlank c = true) (rest : List Char) :
    words (c :: rest) = words rest := by
  simpa using words_append_blank [] rest blank

/-- The pieces of a text hold no blank character. -/
theorem isBlank_of_mem_cut {text piece : List Char} (member : piece ∈ cut text) {c : Char}
    (inside : c ∈ piece) : isBlank c = false := by
  induction text generalizing piece with
  | nil => simp_all
  | cons head tail ih =>
      by_cases blank : isBlank head
      · rw [cut_cons_blank blank, List.mem_cons] at member
        rcases member with rfl | member
        · simp at inside
        · exact ih member inside
      · have visible : isBlank head = false := by simpa using blank
        obtain ⟨first, pieces, equal⟩ := cut_eq_cons tail
        rw [cut_cons_visible visible equal, List.mem_cons] at member
        rcases member with rfl | member
        · rcases List.mem_cons.mp inside with rfl | inside
          · exact visible
          · exact ih (by rw [equal]; exact List.mem_cons_self) inside
        · exact ih (by rw [equal]; exact List.mem_cons_of_mem _ member) inside

/-- Every one of the words is a word. -/
theorem isWord_of_mem_words {text word : List Char} (member : word ∈ words text) : IsWord word := by
  obtain ⟨piece, filled⟩ := List.mem_filter.mp member
  exact ⟨by simpa using filled, fun c inside => isBlank_of_mem_cut piece inside⟩

/-- A word continues the first piece of what follows it. -/
theorem cut_append_of_visible {word : List Char} (visible : ∀ c ∈ word, isBlank c = false)
    {rest piece : List Char} {pieces : List (List Char)} (equal : cut rest = piece :: pieces) :
    cut (word ++ rest) = (word ++ piece) :: pieces := by
  induction word with
  | nil => exact equal
  | cons head tail ih =>
      have after := ih fun c member => visible c (List.mem_cons_of_mem _ member)
      exact cut_cons_visible (visible head List.mem_cons_self) after

/-- A word has no words but itself. -/
theorem words_of_isWord {word : List Char} (isWord : IsWord word) : words word = [word] := by
  have equal : cut (word ++ []) = [word ++ []] := cut_append_of_visible isWord.2 rfl
  simp only [List.append_nil] at equal
  simp [words, equal, isWord.1]

/-- A word in front is one more word, unless a visible character continues it. -/
theorem length_words_append {word : List Char} (isWord : IsWord word) (rest : List Char) :
    (words (word ++ rest)).length =
      (words rest).length + if rest.head?.any (!isBlank ·) then 0 else 1 := by
  cases rest with
  | nil => simp [words_of_isWord isWord]
  | cons head tail =>
      by_cases blank : isBlank head
      · rw [words_append_blank word tail blank, words_of_isWord isWord, words_cons_blank blank]
        simp [blank, Nat.add_comm]
      · have visible : isBlank head = false := by simpa using blank
        obtain ⟨piece, pieces, equal⟩ := cut_eq_cons tail
        have after := cut_cons_visible visible equal
        rw [words, words, cut_append_of_visible isWord.2 after, after]
        simp [visible, isWord.1]

/-! Joining. -/

/-- Joined words are the first word and, for each later one, a space and the word. -/
theorem intercalate_cons_eq_flatMap (word : List Char) (later : List (List Char)) :
    [' '].intercalate (word :: later) = word ++ later.flatMap (' ' :: ·) := by
  induction later generalizing word with
  | nil => simp
  | cons next later ih =>
      rw [List.intercalate_cons_cons, ih next, List.flatMap_cons, List.append_assoc,
        List.singleton_append, List.cons_append]

/-- The words of joined words are those words. -/
theorem words_intercalate {pieces : List (List Char)} (isWord : ∀ word ∈ pieces, IsWord word) :
    words ([' '].intercalate pieces) = pieces := by
  induction pieces with
  | nil => rfl
  | cons word later ih =>
      have first := words_of_isWord (isWord word List.mem_cons_self)
      have after := ih fun other member => isWord other (List.mem_cons_of_mem _ member)
      cases later with
      | nil => simpa using first
      | cons next later =>
          rw [List.intercalate_cons_cons, List.append_assoc, List.singleton_append,
            words_append_blank _ _ isBlank_space, first, after, List.singleton_append]

/-! Collapsing and trimming. -/

/-- A visible character in front stops the trimming at the end. -/
theorem rdropWhile_cons_visible {c : Char} (visible : isBlank c = false) (rest : List Char) :
    (c :: rest).rdropWhile isBlank = c :: rest.rdropWhile isBlank := by
  simp only [List.rdropWhile, List.reverse_cons, List.dropWhile_append]
  cases rest.reverse.dropWhile isBlank with
  | nil => simp [visible]
  | cons last before => simp

/-- A blank character in front stays only before something that stays. -/
theorem rdropWhile_cons_blank {c : Char} (blank : isBlank c = true) (rest : List Char) :
    (c :: rest).rdropWhile isBlank =
      if rest.rdropWhile isBlank = [] then [] else c :: rest.rdropWhile isBlank := by
  by_cases nothing : rest.rdropWhile isBlank = []
  · rw [if_pos nothing]
    have blanks := List.rdropWhile_eq_nil_iff.mp nothing
    refine List.rdropWhile_eq_nil_iff.mpr fun other member => ?_
    rcases List.mem_cons.mp member with rfl | member
    · exact blank
    · exact blanks other member
  · rw [if_neg nothing]
    have stays : rest.reverse.dropWhile isBlank ≠ [] := mt List.reverse_eq_nil_iff.mpr nothing
    rw [List.rdropWhile, List.reverse_cons, List.dropWhile_append,
      if_neg (mt List.isEmpty_iff.mp stays), List.reverse_append, List.reverse_singleton,
      List.singleton_append, List.rdropWhile]

/-- After a blank character a collapsed text starts with a word. -/
theorem dropWhile_collapseFrom (afterBlank : Bool) (text : List Char) :
    (collapseFrom afterBlank text).dropWhile isBlank = collapseFrom true text := by
  induction text generalizing afterBlank with
  | nil => rfl
  | cons c rest ih =>
      by_cases blank : isBlank c
      · cases afterBlank <;> simp [collapseFrom, blank, isBlank_space, ih]
      · simp [collapseFrom, blank]

/-- Trimmed at the end, a collapsed text is the first piece of its text and then every later word
after a space. After a blank character the text starts with its first word instead. -/
theorem rdropWhile_collapseFrom (text : List Char) :
    (collapseFrom true text).rdropWhile isBlank = [' '].intercalate (words text) ∧
      ∀ piece pieces, cut text = piece :: pieces →
        (collapseFrom false text).rdropWhile isBlank =
          piece ++ (pieces.filter (!·.isEmpty)).flatMap (' ' :: ·) := by
  induction text with
  | nil => exact ⟨rfl, by simp_all [collapseFrom]⟩
  | cons c rest ih =>
      obtain ⟨afterBlank, afterVisible⟩ := ih
      by_cases blank : isBlank c
      · refine ⟨by simpa [collapseFrom, blank, words_cons_blank blank] using afterBlank, ?_⟩
        intro piece pieces equal
        rw [cut_cons_blank blank, List.cons.injEq] at equal
        obtain ⟨rfl, rfl⟩ := equal
        simp only [collapseFrom, blank, if_true, Bool.false_eq_true, if_false]
        rw [rdropWhile_cons_blank isBlank_space, afterBlank]
        change _ = [] ++ (words rest).flatMap (' ' :: ·)
        cases equal : words rest with
        | nil => simp
        | cons word later =>
            have isWord := isWord_of_mem_words (equal ▸ List.mem_cons_self : word ∈ words rest)
            simp [intercalate_cons_eq_flatMap, isWord.1]
      · have visible : isBlank c = false := by simpa using blank
        obtain ⟨first, later, equal⟩ := cut_eq_cons rest
        have kept (flag : Bool) : (collapseFrom flag (c :: rest)).rdropWhile isBlank =
            (c :: first) ++ (later.filter (!·.isEmpty)).flatMap (' ' :: ·) := by
          rw [collapseFrom, if_neg blank, rdropWhile_cons_visible visible,
            afterVisible first later equal, List.cons_append]
        constructor
        · rw [kept, words, cut_cons_visible visible equal, List.filter_cons_of_pos (by simp),
            intercalate_cons_eq_flatMap]
        · intro piece pieces whole
          rw [cut_cons_visible visible equal, List.cons.injEq] at whole
          obtain ⟨rfl, rfl⟩ := whole
          exact kept false

/-- A collapsed and trimmed text is its words, joined by single spaces. -/
theorem trim_collapse (text : List Char) :
    trim (collapse text) = [' '].intercalate (words text) := by
  change ((collapseFrom false text).dropWhile isBlank).rdropWhile isBlank = _
  rw [dropWhile_collapseFrom, (rdropWhile_collapseFrom text).1]

/-- Collapsing and trimming keep the words. -/
theorem words_trim_collapse (text : List Char) : words (trim (collapse text)) = words text := by
  rw [trim_collapse, words_intercalate fun _ member => isWord_of_mem_words member]

/-- Two texts collapse and trim to the same text exactly when they have the same words. -/
theorem trim_collapse_eq_iff (first second : List Char) :
    trim (collapse first) = trim (collapse second) ↔ words first = words second := by
  constructor
  · intro equal
    rw [← words_trim_collapse first, equal, words_trim_collapse]
  · intro equal
    rw [trim_collapse, trim_collapse, equal]

end CrossRef.Text
