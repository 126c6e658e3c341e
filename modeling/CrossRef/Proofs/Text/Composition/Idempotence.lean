import CrossRef.Proofs.Text.Composition.Letters

/-!
Composed texts: the decomposed form is elementary and in order, composing does not change what a
text is decomposed into, and so the composed form of a text is its own composed form.
-/

namespace CrossRef.Text.Composition

/-! The order of marks. -/

/-- One character may stand behind another as it is: it is a starter, or of no lower class. -/
def Follows (first second : Char) : Prop :=
  combiningClass second = 0 ∨ combiningClass first ≤ combiningClass second

/-- In an ordered text no mark stands behind one of a higher class. -/
def IsOrdered (text : List Char) : Prop :=
  text.IsChain Follows

/-- The marks of a text are put in order. -/
def inOrder (text : List Char) : List Char :=
  text.foldr place []

/-- The decomposed form is the letters in order. -/
theorem decompose_eq (text : List Char) : decompose text = inOrder (text.flatMap letters) :=
  rfl

/-- What stands behind a mark may stand behind a lower one. -/
theorem isOrdered_of_le {mark lower : Char} {rest : List Char}
    (le : combiningClass lower ≤ combiningClass mark) (ordered : IsOrdered (mark :: rest)) :
    IsOrdered (lower :: rest) := by
  cases rest with
  | nil => exact List.isChain_singleton _
  | cons next rest =>
      obtain ⟨follows, tail⟩ := List.isChain_cons_cons.mp ordered
      exact List.isChain_cons_cons.mpr ⟨follows.imp_right le.trans, tail⟩

/-- A character in front of an ordered text stays there if the text is ordered with it. -/
theorem place_of_isOrdered {mark : Char} {rest : List Char} (ordered : IsOrdered (mark :: rest)) :
    place mark rest = mark :: rest := by
  cases rest with
  | nil => rfl
  | cons next rest =>
      have follows : Follows mark next := (List.isChain_cons_cons.mp ordered).1
      rw [place, if_neg]
      rintro ⟨isMark, lower⟩
      rcases follows with starter | le <;> omega

/-- Placing a mark keeps the order. -/
theorem isOrdered_place (mark : Char) {rest : List Char} (ordered : IsOrdered rest) :
    IsOrdered (place mark rest) := by
  induction rest with
  | nil => exact List.isChain_singleton mark
  | cons next rest ih =>
      rw [place]
      split
      · next moves =>
          have placed := ih ordered.tail
          cases rest with
          | nil => exact List.isChain_pair.mpr (Or.inr moves.2.le)
          | cons second rest =>
              have follows : Follows next second := (List.isChain_cons_cons.mp ordered).1
              rw [place] at placed ⊢
              split at placed
              · next further =>
                  rw [if_pos further]
                  exact List.isChain_cons_cons.mpr ⟨follows, placed⟩
              · next stays =>
                  rw [if_neg stays]
                  exact List.isChain_cons_cons.mpr ⟨Or.inr moves.2.le, placed⟩
      · next stays =>
          refine List.isChain_cons_cons.mpr ⟨?_, ordered⟩
          rw [Follows]
          omega

/-- Marks put in order are in order. -/
theorem isOrdered_inOrder (text : List Char) : IsOrdered (inOrder text) := by
  induction text with
  | nil => exact List.isChain_nil
  | cons c rest ih => exact isOrdered_place c ih

/-- An ordered text is left as it is. -/
theorem inOrder_eq_self {text : List Char} (ordered : IsOrdered text) : inOrder text = text := by
  induction text with
  | nil => rfl
  | cons c rest ih =>
      rw [inOrder, List.foldr_cons, ← inOrder, ih ordered.tail, place_of_isOrdered ordered]

/-- Placing moves characters only. -/
theorem mem_place {mark c : Char} {rest : List Char} (member : c ∈ place mark rest) :
    c = mark ∨ c ∈ rest := by
  induction rest with
  | nil => exact Or.inl (List.mem_singleton.mp member)
  | cons next rest ih =>
      rw [place] at member
      split at member
      · rcases List.mem_cons.mp member with rfl | later
        · exact Or.inr List.mem_cons_self
        · exact (ih later).imp_right (List.mem_cons_of_mem _)
      · exact List.mem_cons.mp member

/-- The characters of a text put in order are those of the text. -/
theorem mem_inOrder {c : Char} {text : List Char} (member : c ∈ inOrder text) : c ∈ text := by
  induction text with
  | nil => exact member
  | cons first rest ih =>
      rcases mem_place member with rfl | later
      · exact List.mem_cons_self
      · exact List.mem_cons_of_mem _ (ih later)

/-- Marks of different classes are placed in either order. -/
theorem place_comm {low high : Char} (isMark : 0 < combiningClass low)
    (lower : combiningClass low < combiningClass high) (rest : List Char) :
    place high (place low rest) = place low (place high rest) := by
  induction rest with
  | nil => simp [place, isMark, lower, lower.le]
  | cons next rest ih =>
      by_cases movesLow : 0 < combiningClass next ∧ combiningClass next < combiningClass low
      · have movesHigh : 0 < combiningClass next ∧ combiningClass next < combiningClass high :=
          ⟨movesLow.1, movesLow.2.trans lower⟩
        simp only [place, if_pos movesLow, if_pos movesHigh, ih]
      · have passes : 0 < combiningClass low ∧ combiningClass low < combiningClass high :=
          ⟨isMark, lower⟩
        rw [place, if_neg movesLow, place, if_pos passes]
        by_cases movesHigh : 0 < combiningClass next ∧ combiningClass next < combiningClass high
        · rw [place, if_pos movesHigh, place, if_neg movesLow]
        · rw [place, if_neg movesHigh, place, if_neg (by omega)]

/-- A mark that stands in front of lower ones may as well stand behind them. -/
theorem place_inOrder_append {mark : Char} {lower : List Char}
    (below : ∀ low ∈ lower, 0 < combiningClass low ∧ combiningClass low < combiningClass mark)
    (rest : List Char) :
    place mark (inOrder (lower ++ rest)) = inOrder (lower ++ mark :: rest) := by
  induction lower with
  | nil => rfl
  | cons low lower ih =>
      obtain ⟨isMark, less⟩ := below low List.mem_cons_self
      change place mark (place low (inOrder (lower ++ rest))) =
        place low (inOrder (lower ++ mark :: rest))
      rw [place_comm isMark less,
        ih fun other member => below other (List.mem_cons_of_mem _ member)]

/-! Composing keeps the decomposed form. -/

/-- What holds while a base takes up the characters behind it: all of them are elementary and in
order, and those that are kept are marks of rising class, the last of them first. -/
structure IsComposing (kept rest : List Char) : Prop where
  elementary : ∀ c ∈ kept ++ rest, IsElementary c
  ordered : IsOrdered rest
  isMark : ∀ mark ∈ kept, 0 < combiningClass mark
  follows : ∀ mark ∈ kept, IsOrdered (mark :: rest)
  rising : kept.Pairwise fun later earlier => combiningClass earlier ≤ combiningClass later

namespace IsComposing

variable {kept rest : List Char} {c : Char}

/-- The next character is of no lower class than the kept marks, if it is a mark. -/
theorem class_le (composing : IsComposing kept (c :: rest)) (isMark : 0 < combiningClass c)
    {mark : Char} (member : mark ∈ kept) : combiningClass mark ≤ combiningClass c := by
  have follows : Follows mark c := (List.isChain_cons_cons.mp (composing.follows mark member)).1
  exact follows.resolve_left isMark.ne'

/-- A character that is no starter is taken out of the text. -/
theorem tail (composing : IsComposing kept (c :: rest))
    (isMark : kept ≠ [] → 0 < combiningClass c) : IsComposing kept rest where
  elementary other member := by
    refine composing.elementary other ?_
    simp only [List.mem_append, List.mem_cons] at member ⊢
    exact member.imp_right Or.inr
  ordered := composing.ordered.tail
  isMark := composing.isMark
  follows mark member := isOrdered_of_le
    (composing.class_le (isMark (List.ne_nil_of_mem member)) member) composing.ordered
  rising := composing.rising

/-- A mark that stays apart is kept. -/
theorem keep (composing : IsComposing kept (c :: rest)) (isMark : 0 < combiningClass c) :
    IsComposing (c :: kept) rest where
  elementary other member := by
    refine composing.elementary other ?_
    simp only [List.cons_append, List.mem_append, List.mem_cons] at member ⊢
    tauto
  ordered := composing.ordered.tail
  isMark := List.forall_mem_cons.mpr ⟨isMark, composing.isMark⟩
  follows := List.forall_mem_cons.mpr
    ⟨composing.ordered, (composing.tail fun _ => isMark).follows⟩
  rising := List.pairwise_cons.mpr
    ⟨fun _ member => composing.class_le isMark member, composing.rising⟩

/-- At the start nothing is kept. -/
theorem start {text : List Char} (elementary : ∀ c ∈ text, IsElementary c)
    (ordered : IsOrdered text) : IsComposing [] text where
  elementary := elementary
  ordered := ordered
  isMark := by simp
  follows := by simp
  rising := List.Pairwise.nil

end IsComposing

/-- Elementary characters are their own letters. -/
theorem flatMap_letters {text : List Char} (elementary : ∀ c ∈ text, IsElementary c) :
    text.flatMap letters = text := by
  rw [List.flatMap_congr elementary, List.flatMap_singleton']

/-- A character that is not blocked is of a higher class than the marks that are kept. -/
theorem IsComposing.lower_of_not_isBlocked {kept rest : List Char} {c : Char}
    (composing : IsComposing kept rest) (free : isBlocked kept c = false) :
    ∀ mark ∈ kept, 0 < combiningClass mark ∧ combiningClass mark < combiningClass c := by
  cases kept with
  | nil => simp
  | cons last kept =>
      have above : combiningClass last < combiningClass c := by simpa [isBlocked] using free
      refine fun mark member => ⟨composing.isMark mark member, ?_⟩
      rcases List.mem_cons.mp member with rfl | earlier
      · exact above
      · exact ((List.pairwise_cons.mp composing.rising).1 mark earlier).trans_lt above

/-- Text in front is put in order last. -/
theorem inOrder_append (first rest : List Char) :
    inOrder (first ++ rest) = first.foldr place (inOrder rest) :=
  List.foldr_append

/-- Composing changes nothing about the decomposed form: a composite has the letters of its parts,
and a mark is taken up only where it may stand directly behind the base. -/
theorem decompose_composeFrom (base : Char) (kept rest : List Char)
    (composing : IsComposing kept rest) :
    decompose (composeFrom base kept rest) = inOrder (letters base ++ (kept.reverse ++ rest)) := by
  have keptLetters (kept rest : List Char) (composing : IsComposing kept rest) :
      kept.reverse.flatMap letters = kept.reverse :=
    flatMap_letters fun c member =>
      composing.elementary c (List.mem_append_left _ (List.mem_reverse.mp member))
  fun_induction composeFrom base kept rest with
  | case1 base kept =>
      rw [decompose_eq, List.flatMap_cons, keptLetters kept [] composing, List.append_nil]
  | case2 base kept c rest joined taken ih =>
      have free : isBlocked kept c = false := by
        by_contra blocked
        simp [blocked] at taken
      have composite : composite? base c = some joined := by simpa [free] using taken
      have below := composing.lower_of_not_isBlocked free
      have later : IsComposing kept rest := composing.tail fun filled => by
        obtain ⟨mark, member⟩ := List.exists_mem_of_ne_nil kept filled
        exact (below mark member).1.trans (below mark member).2
      have elementary : letters c = [c] := composing.elementary c (by simp)
      have passed :
          place c (inOrder (kept.reverse ++ rest)) = inOrder (kept.reverse ++ c :: rest) :=
        place_inOrder_append (fun low member => below low (List.mem_reverse.mp member)) rest
      rw [ih later, letters_of_composite? composite, elementary, List.append_assoc,
        inOrder_append, inOrder_append _ (kept.reverse ++ c :: rest), ← passed]
      rfl
  | case3 base kept c rest apart starter ih =>
      have elementary : letters c = [c] := composing.elementary c (by simp)
      have next : IsComposing [] rest :=
        .start (fun other member => composing.elementary other (by simp [member]))
          composing.ordered.tail
      rw [decompose_eq, List.flatMap_append, List.flatMap_cons, keptLetters kept _ composing,
        inOrder_append, ← decompose_eq, ih next, elementary, ← inOrder_append]
      simp
  | case4 base kept c rest apart isMark ih =>
      rw [ih (composing.keep (Nat.pos_of_ne_zero isMark)), List.reverse_cons, List.append_assoc]
      rfl

/-- Composing an elementary text in order changes nothing about its decomposed form. -/
theorem decompose_compose {text : List Char} (elementary : ∀ c ∈ text, IsElementary c)
    (ordered : IsOrdered text) : decompose (compose text) = text := by
  cases text with
  | nil => rfl
  | cons c rest =>
      have start : IsComposing [] rest :=
        .start (fun other member => elementary other (List.mem_cons_of_mem _ member)) ordered.tail
      have alone : letters c = [c] := elementary c List.mem_cons_self
      rw [compose, decompose_composeFrom c [] rest start, alone]
      exact inOrder_eq_self ordered

/-- The decomposed form of a text is elementary. -/
theorem isElementary_of_mem_decompose {text : List Char} {c : Char} (member : c ∈ decompose text) :
    IsElementary c := by
  obtain ⟨original, -, part⟩ := List.mem_flatMap.mp (mem_inOrder member)
  exact isElementary_of_mem_letters part

/-- The composed form of a text is decomposed into the same characters as the text. -/
theorem decompose_compose_decompose (text : List Char) :
    decompose (compose (decompose text)) = decompose text :=
  decompose_compose (fun _ => isElementary_of_mem_decompose) (isOrdered_inOrder _)

end CrossRef.Text.Composition

namespace CrossRef.Text

/-- A text is composed when it is its own composed form. -/
def IsComposed (text : String) : Prop :=
  composed text = text

instance (text : String) : Decidable (IsComposed text) :=
  inferInstanceAs (Decidable (_ = _))

/-- The composed form of a text is composed. -/
theorem isComposed_composed (text : String) : IsComposed (composed text) := by
  rw [IsComposed, composed, composed, String.toList_ofList,
    Composition.decompose_compose_decompose]

end CrossRef.Text
