import CrossRef.Proofs.Text.Composition.Idempotence

/-!
Stable characters: characters that are composed and join with no character in front of them. A
text of stable characters is composed, in whatever order they stand.
-/

namespace CrossRef.Text.Composition

/-- Some character in front of this one may take it up. -/
def isTakenUp (c : Char) : Bool :=
  (vowelBase ≤ c.toNat && c.toNat < vowelBase + 21) ||
    (trailBase < c.toNat && c.toNat < trailBase + 28) ||
    pairs.any fun entry => entry.2.2 = c.toNat

/-- Text may be cut in front of a starter that no base takes up. -/
def IsBoundary (c : Char) : Prop :=
  combiningClass c = 0 ∧ isTakenUp c = false

/-- A character is stable when it is composed and its first letter is a boundary. -/
structure IsStable (c : Char) : Prop where
  isComposed : compose (decompose [c]) = [c]
  isBoundary : ∀ first ∈ (decompose [c]).head?, IsBoundary first

instance (c : Char) : Decidable (IsBoundary c) :=
  inferInstanceAs (Decidable (_ ∧ _))

instance (c : Char) : Decidable (IsStable c) :=
  -- Only the first letter is looked at. A quantifier over letters would go through all characters.
  decidable_of_iff
    (compose (decompose [c]) = [c] ∧
      (decompose [c]).head?.all (fun first => decide (IsBoundary first)) = true)
    ⟨fun ⟨isComposed, isBoundary⟩ => ⟨isComposed, by simpa [Option.all_eq_true] using isBoundary⟩,
      fun ⟨isComposed, isBoundary⟩ => ⟨isComposed, by simpa [Option.all_eq_true] using isBoundary⟩⟩

/-- A text that starts with a boundary, or is empty. -/
def StartsFree (text : List Char) : Prop :=
  ∀ first ∈ text.head?, IsBoundary first

/-- No base takes up a character that is never taken up. -/
theorem composite?_eq_none {c : Char} (free : isTakenUp c = false) (base : Char) :
    composite? base c = none := by
  simp only [isTakenUp, Bool.or_eq_false_iff, Bool.and_eq_false_iff, decide_eq_false_iff_not,
    List.any_eq_false, decide_eq_true_eq] at free
  obtain ⟨⟨noVowel, noTrail⟩, noPair⟩ := free
  have noSyllable : syllable? base.toNat c.toNat = none := by
    rw [syllable?, if_neg (by omega), if_neg (by omega)]
  have unlisted : pairs.find? (fun entry =>
      entry.2.1 = base.toNat ∧ entry.2.2 = c.toNat ∧ entry.1 ∉ keptApart) = none := by
    refine List.find?_eq_none.mpr fun entry member => ?_
    simp [noPair entry member]
  rw [composite?, noSyllable]
  simp only [unlisted, Option.map_none, ite_self]

/-! Texts fall apart at boundaries. -/

/-- A mark does not move past a boundary. -/
theorem place_append {rest : List Char} (free : StartsFree rest) (mark : Char)
    (text : List Char) : place mark (text ++ rest) = place mark text ++ rest := by
  induction text with
  | nil =>
      cases rest with
      | nil => rfl
      | cons next rest =>
          have starter : combiningClass next = 0 := (free next rfl).1
          change place mark (next :: rest) = mark :: next :: rest
          rw [place, if_neg (by omega)]
  | cons next text ih =>
      rw [List.cons_append, place, place, ih]
      split <;> rfl

/-- The two sides of a boundary are decomposed apart. -/
theorem decompose_append (first : List Char) {rest : List Char}
    (free : StartsFree (decompose rest)) :
    decompose (first ++ rest) = decompose first ++ decompose rest := by
  have inFront (text : List Char) :
      text.foldr place (decompose rest) = inOrder text ++ decompose rest := by
    induction text with
    | nil => rfl
    | cons c text ih =>
        rw [List.foldr_cons, ih, place_append free]
        rfl
  rw [decompose_eq, List.flatMap_append, inOrder_append, ← decompose_eq, inFront]
  rfl

/-- The two sides of a boundary are composed apart. -/
theorem composeFrom_append {rest : List Char} (free : StartsFree rest) (base : Char)
    (kept text : List Char) :
    composeFrom base kept (text ++ rest) = composeFrom base kept text ++ compose rest := by
  fun_induction composeFrom base kept text with
  | case1 base kept =>
      cases rest with
      | nil => simp [composeFrom, compose]
      | cons c rest =>
          obtain ⟨starter, untaken⟩ := free c rfl
          rw [List.nil_append, composeFrom, composite?_eq_none untaken, ite_self]
          simp only [starter, if_true]
          rfl
  | case2 base kept c text joined taken ih =>
      rw [List.cons_append, composeFrom, taken]
      exact ih
  | case3 base kept c text apart starter ih =>
      rw [List.cons_append, composeFrom, apart]
      simp only [starter, if_true, ih, List.append_assoc]
  | case4 base kept c text apart isMark ih =>
      rw [List.cons_append, composeFrom, apart]
      simp only [isMark, if_false, ih]

/-! Texts of stable characters. -/

/-- The decomposed form of a stable character is not empty. -/
theorem IsStable.decompose_ne_nil {c : Char} (stable : IsStable c) : decompose [c] ≠ [] := by
  intro empty
  have composed := stable.isComposed
  rw [empty] at composed
  cases composed

/-- The decomposed form of a text of stable characters starts with a boundary. -/
theorem startsFree_decompose {text : List Char} (stable : ∀ c ∈ text, IsStable c) :
    StartsFree (decompose text) := by
  induction text with
  | nil => exact fun _ member => by cases member
  | cons c text ih =>
      obtain ⟨head, others⟩ := List.forall_mem_cons.mp stable
      have apart : decompose (c :: text) = decompose [c] ++ decompose text :=
        decompose_append [c] (ih others)
      rw [apart, StartsFree, List.head?_append_of_ne_nil _ head.decompose_ne_nil]
      exact head.isBoundary

/-- A text of stable characters is its own composed form. -/
theorem compose_decompose_of_isStable {text : List Char} (stable : ∀ c ∈ text, IsStable c) :
    compose (decompose text) = text := by
  induction text with
  | nil => rfl
  | cons c text ih =>
      obtain ⟨head, others⟩ := List.forall_mem_cons.mp stable
      have free := startsFree_decompose others
      have apart : decompose (c :: text) = decompose [c] ++ decompose text :=
        decompose_append [c] free
      obtain ⟨first, rest, letters⟩ := List.exists_cons_of_ne_nil head.decompose_ne_nil
      have alone : composeFrom first [] rest = [c] := by
        rw [← head.isComposed, letters]
        rfl
      rw [apart, letters, List.cons_append, compose, composeFrom_append free, alone, ih others]
      rfl

/-! Letters of ASCII. -/

/-- No character of ASCII falls apart. -/
theorem letters_of_ascii : ∀ point < 128, letters (Char.ofNat point) = [Char.ofNat point] := by
  decide +kernel

/-- No character of ASCII is taken up. -/
theorem isTakenUp_of_ascii {c : Char} (ascii : c.toNat < 128) : isTakenUp c = false := by
  have high : pairs.all (fun entry => 0x300 ≤ entry.2.2) = true := by decide +kernel
  simp only [isTakenUp, Bool.or_eq_false_iff, Bool.and_eq_false_iff, decide_eq_false_iff_not,
    List.any_eq_false, decide_eq_true_eq]
  simp only [vowelBase, trailBase]
  refine ⟨⟨by omega, by omega⟩, fun entry member equal => ?_⟩
  have above := List.all_eq_true.mp high entry member
  rw [decide_eq_true_eq] at above
  omega

/-- The characters of ASCII are stable. -/
theorem isStable_of_ascii {c : Char} (ascii : c.toNat < 128) : IsStable c := by
  have alone : letters c = [c] := by
    rw [← Char.ofNat_toNat c]
    exact letters_of_ascii c.toNat ascii
  have starter : combiningClass c = 0 := by
    rw [combiningClass, markClasses, classIn, if_pos (by omega), if_neg (by omega)]
  have whole : decompose [c] = [c] := by
    rw [decompose_eq, List.flatMap_singleton, alone]
    rfl
  refine ⟨by rw [whole]; rfl, fun first member => ?_⟩
  rw [whole, List.head?_cons, Option.mem_some_iff] at member
  subst member
  exact ⟨starter, isTakenUp_of_ascii ascii⟩

end CrossRef.Text.Composition

namespace CrossRef.Text

/-- A text of stable characters is composed. -/
theorem isComposed_of_isStable {text : String}
    (stable : ∀ c ∈ text.toList, Composition.IsStable c) : IsComposed text := by
  rw [IsComposed, composed, Composition.compose_decompose_of_isStable stable, String.ofList_toList]

end CrossRef.Text
