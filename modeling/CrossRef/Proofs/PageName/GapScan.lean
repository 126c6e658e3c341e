import CrossRef.Proofs.PageName.Spelling

/-!
The scan for gaps on a text with spelled letters: what it writes is the text spelled by a local
rule, which sees two characters and the one before them.
-/

namespace CrossRef.PageName

/-- What the scan has read and not written yet, fences aside. -/
def Scan.pending : Scan → List Char
  | .idle => []
  | .held edge _ => [edge]

/-- What the scan writes before a name that follows. -/
def Scan.gap : Scan → List Char
  | .idle => []
  | .held _ _ => [' ']

/-- Between two characters of a text the scan holds a word, with one fence at most. -/
def Scan.Settled : Scan → Prop
  | .idle => True
  | .held edge fences => isPlainWord edge = true ∧ fences ≤ 1

/-- What the scan writes for the rest of a text, without the fences that stay. -/
def written (scan : Scan) (rest : List Char) : List Char :=
  (fillGapsFrom scan (rest.flatMap spellOut)).filter (· ≠ fence)

/-- The scan after a character: a name leaves its last letter and a fence, and a word is held
unless it was the right edge of the gap before it. -/
def Scan.after (before : Option Char) (left : Char) : Scan :=
  if isGreek left then .held ((spelling left).getLast (spelling_ne_nil left)) 1
  else if isPlainWord left && !before.any isGreek then .held left 0
  else .idle

/-! Characters of the scan. -/

/-- No fence is a word of its own. -/
theorem ne_fence_of_isPlainWord {c : Char} (plain : isPlainWord c = true) : c ≠ fence := by
  rintro rfl
  exact absurd plain (by decide)

/-- No Greek letter is a fence. -/
theorem ne_fence_of_isGreek {c : Char} (greek : isGreek c = true) : c ≠ fence := by
  rintro rfl
  exact absurd greek (by decide)

/-- The edges of gaps are the words, fences aside. -/
theorem isGapEdge_eq_isPlainWord {c : Char} (proper : c ≠ fence) :
    isGapEdge c = isPlainWord c := by
  have different : (c == '_') = false := by simpa [fence] using proper
  simp [isGapEdge, isPlainWord, Text.isAsciiWord, different]

/-- A Greek letter is written between two fences. -/
theorem spellOut_of_isGreek {c : Char} (greek : isGreek c = true) :
    spellOut c = fence :: (spelling c ++ [fence]) := by
  obtain ⟨name, named⟩ := Option.isSome_iff_exists.mp greek
  simp [spellOut, spelling, named]

/-- Every other character is written as it is. -/
theorem spellOut_of_not_isGreek {c : Char} (other : isGreek c = false) : spellOut c = [c] := by
  have unnamed : Text.greekName? c = none := by simpa [isGreek] using other
  simp [spellOut, unnamed]

/-! Steps of the scan. -/

attribute [local simp] fillGapsFrom

/-- Letters after a held one are written, and the last of them is held. -/
theorem fillGapsFrom_held_letters (edge : Char) (middle : List Char) (last : Char)
    (rest : List Char) (plain : ∀ c ∈ middle ++ [last], isPlainWord c = true) :
    fillGapsFrom (.held edge 0) (middle ++ last :: rest) =
      edge :: (middle ++ fillGapsFrom (.held last 0) rest) := by
  induction middle generalizing edge with
  | nil =>
      have proper := ne_fence_of_isPlainWord (plain last (by simp))
      simp [proper, isGapEdge_eq_isPlainWord proper, plain last (by simp)]
  | cons head tail ih =>
      have headPlain := plain head (by simp)
      have proper := ne_fence_of_isPlainWord headPlain
      have after := ih head fun c member => plain c (List.mem_cons_of_mem _ member)
      simp only [List.cons_append, fillGapsFrom, proper, if_false,
        isGapEdge_eq_isPlainWord proper, headPlain, if_true, after]

/-- Letters that nothing is held before are written, and the last of them is held. -/
theorem fillGapsFrom_idle_letters (middle : List Char) (last : Char) (rest : List Char)
    (plain : ∀ c ∈ middle ++ [last], isPlainWord c = true) :
    fillGapsFrom .idle (middle ++ last :: rest) =
      middle ++ fillGapsFrom (.held last 0) rest := by
  have starts {c : Char} (edge : isPlainWord c = true) (more : List Char) :
      fillGapsFrom .idle (c :: more) = fillGapsFrom (.held c 0) more := by
    rw [fillGapsFrom, isGapEdge_eq_isPlainWord (ne_fence_of_isPlainWord edge), if_pos edge]
  cases middle with
  | nil => exact starts (plain last (by simp)) rest
  | cons head tail =>
      rw [List.cons_append, starts (plain head (by simp)), List.cons_append]
      exact fillGapsFrom_held_letters head tail last rest
        fun c member => plain c (List.mem_cons_of_mem _ member)

/-- The first letter of a name closes the gap after a held word. -/
theorem fillGapsFrom_held_gap (edge : Char) {fences : Nat} (few : fences ≤ 1) {first : Char}
    (plain : isPlainWord first = true) (rest : List Char) :
    fillGapsFrom (.held edge fences) (fence :: first :: rest) =
      edge :: ' ' :: first :: fillGapsFrom .idle rest := by
  have proper := ne_fence_of_isPlainWord plain
  have edgeFound := (isGapEdge_eq_isPlainWord proper).trans plain
  rcases Nat.le_one_iff_eq_zero_or_eq_one.mp few with rfl | rfl <;>
    simp [proper, edgeFound]

/-- The fence after a held character is counted. -/
theorem fillGapsFrom_held_fence (edge : Char) (rest : List Char) :
    fillGapsFrom (.held edge 0) (fence :: rest) = fillGapsFrom (.held edge 1) rest := by
  simp

/-- Where nothing is held the fence before a name stays, and the last letter is held. -/
theorem fillGapsFrom_idle_name (first : Char) (middle : List Char) (last : Char)
    (rest : List Char) (plain : ∀ c ∈ first :: (middle ++ [last]), isPlainWord c = true) :
    fillGapsFrom .idle (fence :: first :: (middle ++ last :: fence :: rest)) =
      fence :: first :: (middle ++ fillGapsFrom (.held last 1) rest) := by
  have letters := fillGapsFrom_held_letters fence (first :: middle) last (fence :: rest)
    (by simpa using plain)
  rw [fillGapsFrom, if_pos (by decide), ← List.cons_append, letters, fillGapsFrom_held_fence,
    List.cons_append]

/-- Where a word is held the name follows it after a space, and the last letter is held. -/
theorem fillGapsFrom_held_name (edge : Char) {fences : Nat} (few : fences ≤ 1) (first : Char)
    (middle : List Char) (last : Char) (rest : List Char)
    (plain : ∀ c ∈ first :: (middle ++ [last]), isPlainWord c = true) :
    fillGapsFrom (.held edge fences) (fence :: first :: (middle ++ last :: fence :: rest)) =
      edge :: ' ' :: first :: (middle ++ fillGapsFrom (.held last 1) rest) := by
  have laterPlain : ∀ c ∈ middle ++ [last], isPlainWord c = true :=
    fun c member => plain c (List.mem_cons_of_mem _ member)
  rw [fillGapsFrom_held_gap edge few (plain first List.mem_cons_self),
    fillGapsFrom_idle_letters _ _ _ laterPlain, fillGapsFrom_held_fence]

/-! What a step writes. -/

/-- Words are no fences, so they stay. -/
theorem filter_plain {word : List Char} (plain : ∀ c ∈ word, isPlainWord c = true) :
    word.filter (· ≠ fence) = word :=
  List.filter_eq_self.mpr fun c member => by simpa using ne_fence_of_isPlainWord (plain c member)

/-- A name is written after what is pending and a gap, and its last letter is held. -/
theorem written_greek {scan : Scan} (settled : scan.Settled) {c : Char} (greek : isGreek c = true)
    (rest : List Char) :
    written scan (c :: rest) = scan.pending ++ scan.gap ++ (spelling c).dropLast ++
      written (.held ((spelling c).getLast (spelling_ne_nil c)) 1) rest := by
  obtain ⟨first, middle, last, spelled, letters⟩ := spelling_of_isGreek greek
  have plain : ∀ letter ∈ first :: (middle ++ [last]), isPlainWord letter = true :=
    fun letter member => isPlainWord_of_isAlphanum (letters letter (spelled ▸ member))
  have firstProper := ne_fence_of_isPlainWord (plain first List.mem_cons_self)
  have middleKept := filter_plain fun letter member =>
    plain letter (List.mem_cons_of_mem _ (List.mem_append_left _ member))
  have initial : (spelling c).dropLast = first :: middle := by
    rw [spelled, ← List.cons_append, List.dropLast_concat]
  have final : (spelling c).getLast (spelling_ne_nil c) = last := by simp [spelled]
  rw [initial, final]
  simp only [written, List.flatMap_cons, spellOut_of_isGreek greek, spelled, List.cons_append,
    List.append_assoc, List.nil_append]
  cases scan with
  | idle =>
      rw [fillGapsFrom_idle_name first middle last _ plain]
      simp only [Scan.pending, Scan.gap, List.nil_append, List.filter_cons, List.filter_append,
        middleKept, ne_eq, not_true_eq_false, decide_false, Bool.false_eq_true, if_false,
        firstProper, not_false_eq_true, decide_true, if_true]
  | held edge fences =>
      have edgeProper := ne_fence_of_isPlainWord settled.1
      have spaceProper : ' ' ≠ fence := by decide
      rw [fillGapsFrom_held_name edge settled.2 first middle last _ plain]
      simp only [Scan.pending, Scan.gap, List.cons_append, List.nil_append, List.filter_cons,
        List.filter_append, middleKept, ne_eq, edgeProper, spaceProper, firstProper,
        not_false_eq_true, decide_true, if_true]

/-- A character that is neither a name nor a word is written after what is pending. -/
theorem written_other {scan : Scan} (settled : scan.Settled) {c : Char}
    (unnamed : isGreek c = false) (other : isPlainWord c = false) (proper : c ≠ fence)
    (rest : List Char) :
    written scan (c :: rest) = scan.pending ++ c :: written .idle rest := by
  have noEdge : isGapEdge c = false := (isGapEdge_eq_isPlainWord proper).trans other
  simp only [written, List.flatMap_cons, spellOut_of_not_isGreek unnamed, List.singleton_append]
  cases scan with
  | idle => simp [noEdge, proper, Scan.pending]
  | held edge fences =>
      have edgeProper := ne_fence_of_isPlainWord settled.1
      rcases Nat.le_one_iff_eq_zero_or_eq_one.mp settled.2 with rfl | rfl <;>
        simp [noEdge, proper, edgeProper, Scan.pending]

/-- A word after no fence is held in place of what is pending. -/
theorem written_word {scan : Scan} (settled : scan.Settled) {c : Char}
    (plain : isPlainWord c = true) (unfenced : ∀ edge, scan ≠ .held edge 1) (rest : List Char) :
    written scan (c :: rest) = scan.pending ++ written (.held c 0) rest := by
  have unnamed := isGreek_of_isPlainWord plain
  have proper := ne_fence_of_isPlainWord plain
  have edgeFound := (isGapEdge_eq_isPlainWord proper).trans plain
  simp only [written, List.flatMap_cons, spellOut_of_not_isGreek unnamed, List.singleton_append]
  cases scan with
  | idle => simp [edgeFound, Scan.pending]
  | held edge fences =>
      have edgeProper := ne_fence_of_isPlainWord settled.1
      rcases Nat.le_one_iff_eq_zero_or_eq_one.mp settled.2 with rfl | rfl
      · simp [edgeFound, proper, edgeProper, Scan.pending]
      · exact absurd rfl (unfenced edge)

/-- A word after a fence closes the gap, and is not held. -/
theorem written_word_after_fence {edge c : Char} (edgePlain : isPlainWord edge = true)
    (plain : isPlainWord c = true) (rest : List Char) :
    written (.held edge 1) (c :: rest) = edge :: ' ' :: c :: written .idle rest := by
  have unnamed := isGreek_of_isPlainWord plain
  have proper := ne_fence_of_isPlainWord plain
  have edgeFound := (isGapEdge_eq_isPlainWord proper).trans plain
  have edgeProper := ne_fence_of_isPlainWord edgePlain
  have spaceProper : ' ' ≠ fence := by decide
  simp [written, spellOut_of_not_isGreek unnamed, edgeFound, proper, edgeProper, spaceProper]

/-! The whole scan. -/

/-- After every character the scan is settled. -/
theorem settled_after (before : Option Char) (left : Char) : (Scan.after before left).Settled := by
  by_cases greek : isGreek left
  · obtain ⟨-, -, -, -, letters⟩ := spelling_of_isGreek greek
    have final := letters _ (List.getLast_mem (spelling_ne_nil left))
    simp [Scan.after, greek, Scan.Settled, isPlainWord_of_isAlphanum final]
  · by_cases held : isPlainWord left && !before.any isGreek
    · simp only [Bool.and_eq_true] at held
      simp [Scan.after, greek, held, Scan.Settled]
    · simp [Scan.after, greek, held, Scan.Settled]

/-- Before a name the scan writes the space that its rule asks for. -/
theorem gap_after (before : Option Char) (left : Char) {right : Char}
    (greek : isGreek right = true) :
    (Scan.after before left).gap = if scanRule before left right then [' '] else [] := by
  by_cases leftGreek : isGreek left
  · simp [Scan.after, Scan.gap, scanRule, needsGap, isEnclosed, greek, leftGreek,
      isPlainWord_of_isGreek leftGreek]
  · by_cases plain : isPlainWord left <;> cases enclosed : before.any isGreek <;>
      simp [Scan.after, Scan.gap, scanRule, needsGap, isEnclosed, greek, leftGreek, plain,
        enclosed]

/-- What the scan writes after a character is that character, if it is pending, and the rest of
the text spelled by the rule of the scan. -/
theorem written_after (rest : List Char) (before : Option Char) (left : Char)
    (proper : ∀ c ∈ rest, c ≠ fence) :
    written (Scan.after before left) rest =
      (Scan.after before left).pending ++ spellAfter scanRule before left rest := by
  induction rest generalizing before left with
  | nil =>
      have settled := settled_after before left
      cases state : Scan.after before left with
      | idle => rfl
      | held edge fences =>
          rw [state] at settled
          have edgeProper := ne_fence_of_isPlainWord settled.1
          rcases Nat.le_one_iff_eq_zero_or_eq_one.mp settled.2 with rfl | rfl <;>
            simp [written, Scan.pending, spellAfter, edgeProper]
  | cons right rest ih =>
      have settled := settled_after before left
      have after := ih (some left) right fun c member => proper c (List.mem_cons_of_mem _ member)
      rw [spellAfter]
      by_cases greek : isGreek right
      · have held : Scan.after (some left) right =
            .held ((spelling right).getLast (spelling_ne_nil right)) 1 := by
          simp [Scan.after, greek]
        rw [held] at after
        rw [written_greek settled greek, gap_after before left greek, after]
        simp only [Scan.pending, ← List.append_assoc]
        rw [List.append_assoc _ _ [_], List.dropLast_append_getLast]
      · have unnamed : isGreek right = false := by simpa using greek
        by_cases plain : isPlainWord right
        · by_cases leftGreek : isGreek left
          · have held : Scan.after before left =
                .held ((spelling left).getLast (spelling_ne_nil left)) 1 := by
              simp [Scan.after, leftGreek]
            have idle : Scan.after (some left) right = .idle := by
              simp [Scan.after, unnamed, leftGreek]
            have gap : scanRule before left right = true := by
              simp [scanRule, needsGap, isEnclosed, leftGreek, plain, unnamed]
            rw [held] at settled
            rw [idle] at after
            rw [held, written_word_after_fence settled.1 plain, after, gap,
              spelling_of_not_isGreek unnamed]
            simp [Scan.pending]
          · have leftUnnamed : isGreek left = false := by simpa using leftGreek
            have unfenced (edge : Char) : Scan.after before left ≠ .held edge 1 := by
              by_cases held : isPlainWord left && !before.any isGreek <;>
                simp [Scan.after, leftUnnamed, held]
            have held : Scan.after (some left) right = .held right 0 := by
              simp [Scan.after, unnamed, plain, leftUnnamed]
            have noGap : scanRule before left right = false := by
              simp [scanRule, needsGap, unnamed, leftUnnamed]
            rw [held] at after
            rw [written_word settled plain unfenced, after, noGap,
              spelling_of_not_isGreek unnamed]
            simp [Scan.pending]
        · have other : isPlainWord right = false := by simpa using plain
          have idle : Scan.after (some left) right = .idle := by simp [Scan.after, unnamed, other]
          have noGap : scanRule before left right = false := by
            simp [scanRule, needsGap, unnamed, other]
          rw [idle] at after
          rw [written_other settled unnamed other (proper right List.mem_cons_self), after, noGap,
            spelling_of_not_isGreek unnamed]
          simp [Scan.pending]

/-- The scan over a whole text spells it by its rule: it starts as after a blank character. -/
theorem written_idle (text : List Char) (proper : ∀ c ∈ text, c ≠ fence) :
    written .idle text = spell scanRule text := by
  have after := written_after text none ' ' proper
  rwa [spellAfter_blank none Text.isBlank_space] at after

/-! The whole name. -/

/-- A bare text holds no fence. -/
theorem ne_fence_of_mem_bare {text : List Char} {c : Char} (member : c ∈ bare text) :
    c ≠ fence := by
  obtain ⟨original, -, rfl⟩ := List.mem_map.mp member
  by_cases equal : original = fence
  · rw [unfenced, if_pos equal]
    decide
  · rwa [unfenced, if_neg equal]

/-- A character of some width is read as one. -/
theorem unfenced_ne_zeroWidthSpace {c : Char} (visible : c ≠ zeroWidthSpace) :
    unfenced c ≠ zeroWidthSpace := by
  by_cases equal : c = fence
  · rw [unfenced, if_pos equal]
    decide
  · rwa [unfenced, if_neg equal]

/-- A bare text holds no character of zero width. -/
theorem ne_zeroWidthSpace_of_mem_bare {text : List Char} {c : Char} (member : c ∈ bare text) :
    c ≠ zeroWidthSpace := by
  obtain ⟨original, kept, rfl⟩ := List.mem_map.mp member
  exact unfenced_ne_zeroWidthSpace (by simpa using (List.mem_filter.mp kept).2)

/-- A name holds no character of zero width. -/
theorem ne_zeroWidthSpace_of_mem_spellOut {c letter : Char} (visible : c ≠ zeroWidthSpace)
    (member : letter ∈ spellOut c) : letter ≠ zeroWidthSpace := by
  by_cases greek : isGreek c
  · obtain ⟨-, -, -, -, letters⟩ := spelling_of_isGreek greek
    have proper : ∀ other ∈ spelling c, other ≠ zeroWidthSpace := by
      rintro other inside rfl
      exact absurd (letters _ inside) (by decide)
    have fenceProper : fence ≠ zeroWidthSpace := by decide
    rw [spellOut_of_isGreek greek, List.mem_cons, List.mem_append, List.mem_singleton] at member
    rcases member with rfl | inside | rfl
    · exact fenceProper
    · exact proper letter inside
    · exact fenceProper
  · rw [spellOut_of_not_isGreek (by simpa using greek), List.mem_singleton] at member
    rwa [member]

/-- Characters of zero width disappear before or after the letters are spelled alike. -/
theorem filter_flatMap_spellOut (text : List Char) :
    ((text.map fun c => if c = fence then ' ' else c).flatMap spellOut).filter
      (· ≠ zeroWidthSpace) = (bare text).flatMap spellOut := by
  induction text with
  | nil => rfl
  | cons c rest ih =>
      rw [List.map_cons, List.flatMap_cons, List.filter_append, ih]
      by_cases zero : c = zeroWidthSpace
      · subst zero
        rfl
      · have visible := unfenced_ne_zeroWidthSpace zero
        have kept : (spellOut (unfenced c)).filter (· ≠ zeroWidthSpace) = spellOut (unfenced c) :=
          List.filter_eq_self.mpr fun letter member => by
            simpa using ne_zeroWidthSpace_of_mem_spellOut visible member
        change (spellOut (unfenced c)).filter (· ≠ zeroWidthSpace) ++ _ = _
        rw [kept, bare, bare, List.filter_cons_of_pos (by simpa using zero), List.map_cons,
          List.flatMap_cons]

/-- A page name is its bare text, spelled by the rule of the scan, collapsed and trimmed. -/
theorem ofChars_eq_spell (text : List Char) :
    ofChars text = Text.trim (Text.collapse (spell scanRule (bare text))) := by
  have proper : ∀ c ∈ bare text, c ≠ fence := fun c member => ne_fence_of_mem_bare member
  rw [← written_idle _ proper]
  simp only [ofChars, filter_flatMap_spellOut]
  rfl

/-- A paragraph with one run of text has that text. -/
theorem text_ofText (text : String) : (Paragraph.ofText text).text = text := by
  simp [Paragraph.ofText, Paragraph.text, Inline.textOfList, Inline.text]

/-- The page name of a text without a suffix depends on nothing else. -/
theorem pageName_ofText (text : String) (edge : EdgeKind) :
    (Paragraph.ofText text).pageName none edge = String.ofList (ofChars text.toList) := by
  rw [Paragraph.pageName, withSuffix, text_ofText]

end CrossRef.PageName
