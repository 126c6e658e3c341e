import CrossRef.Proofs.Json.Number
import CrossRef.Proofs.Json.String

/-!
The characters of JSON text: apart from the line feeds between the lines no control character is
written.
-/

namespace CrossRef.Json

/-! Numbers. -/

/-- A character of numerals is no control. -/
theorem visible_of_isNumeric {c : Char} (numeric : Numeral.IsNumeric c) : 0x20 ≤ c.toNat := by
  rcases numeric with isDigit | mark
  · simp only [Char.isDigit, Bool.and_eq_true, decide_eq_true_eq, ge_iff_le,
      UInt32.le_iff_toNat_le] at isDigit
    exact Nat.le_trans (by decide) isDigit.1
  · simp only [List.mem_cons, List.not_mem_nil, or_false] at mark
    rcases mark with rfl | rfl | rfl | rfl <;> decide

/-- The text of a number has no controls. -/
theorem visible_of_mem_textIn (value : Binary64) :
    ∀ c ∈ (value.textIn notation64).toList, 0x20 ≤ c.toNat := by
  cases value with
  | nan => simp [Binary64.textIn, notation64]
  | infinite negative => cases negative <;> simp [Binary64.textIn, Binary64.signed, notation64]
  | finite negative magnitude representable =>
      exact fun c member =>
        visible_of_isNumeric (Binary64.isNumeric_textIn rfl negative representable c member)

/-- The text of a whole number has no controls. -/
theorem visible_of_mem_toString (value : Int) : ∀ c ∈ (toString value).toList, 0x20 ≤ c.toNat :=
  fun c member => visible_of_isNumeric (Numeral.isNumeric_toString value c member)

/-! Strings. -/

/-- A hexadecimal numeral has no controls. -/
theorem visible_of_mem_lowerHex {width value : Nat} {c : Char}
    (member : c ∈ Text.lowerHex width value) : 0x20 ≤ c.toNat := by
  induction width generalizing value with
  | zero => cases member
  | succ width ih =>
      rw [Text.lowerHex, List.mem_append, List.mem_singleton] at member
      rcases member with earlier | rfl
      · exact ih earlier
      · have visible : ∀ digit < 16, 0x20 ≤ (Nat.digitChar digit).toNat := by decide
        exact visible _ (Nat.mod_lt _ (by decide))

/-- An escaped character has no controls. -/
theorem visible_of_mem_escapeChar {c escaped : Char} (member : escaped ∈ escapeChar c) :
    0x20 ≤ escaped.toNat := by
  rcases escapeChar_cases c with ⟨letter, text, -, short⟩ | ⟨-, text⟩ | ⟨text, -, -, visible⟩
  · have visible : 0x20 ≤ letter.toNat := by
      revert short
      unfold shortEscape?
      split <;> simp
    rw [text] at member
    rcases List.mem_cons.mp member with rfl | later
    · decide
    · rwa [List.mem_singleton.mp later]
  · rw [text] at member
    rcases List.mem_cons.mp member with rfl | later
    · decide
    rcases List.mem_cons.mp later with rfl | digit
    · decide
    · exact visible_of_mem_lowerHex digit
  · rw [text, List.mem_singleton] at member
    rwa [member]

/-- A written string has no controls. -/
theorem visible_of_mem_writeString {value : String} {c : Char} (member : c ∈ writeString value) :
    0x20 ≤ c.toNat := by
  rw [writeString, List.cons_append, List.mem_cons, List.mem_append, List.mem_singleton,
    List.mem_flatMap] at member
  rcases member with rfl | ⟨original, -, escaped⟩ | rfl
  · decide
  · exact visible_of_mem_escapeChar escaped
  · decide

/-! Values. -/

/-- A text is plain when its only controls are the ends of its lines. -/
def IsPlain (text : List Char) : Prop :=
  ∀ c ∈ text, c = '\n' ∨ 0x20 ≤ c.toNat

/-- Without controls a text is plain. -/
theorem isPlain_of_visible {text : List Char} (visible : ∀ c ∈ text, 0x20 ≤ c.toNat) :
    IsPlain text :=
  fun c member => Or.inr (visible c member)

@[simp] theorem isPlain_cons {c : Char} {text : List Char} :
    IsPlain (c :: text) ↔ (c = '\n' ∨ 0x20 ≤ c.toNat) ∧ IsPlain text :=
  List.forall_mem_cons

@[simp] theorem isPlain_append {front back : List Char} :
    IsPlain (front ++ back) ↔ IsPlain front ∧ IsPlain back :=
  List.forall_mem_append

@[simp] theorem isPlain_nil : IsPlain [] :=
  List.forall_mem_nil _

/-- A new line is plain with its indentation. -/
@[simp] theorem isPlain_newLine (indent level : Nat) : IsPlain (newLine indent level) := by
  refine isPlain_cons.mpr ⟨Or.inl rfl, isPlain_of_visible fun c space => ?_⟩
  rw [List.eq_of_mem_replicate space]
  decide

@[simp] theorem isPlain_writeString (value : String) : IsPlain (writeString value) :=
  isPlain_of_visible fun _ => visible_of_mem_writeString

mutual

/-- A written value is plain. -/
theorem isPlain_writeAt (indent : Nat) : (value : Json) → ∀ level : Nat,
    IsPlain (writeAt indent level value)
  | null, _ | boolean true, _ | boolean false, _ | array [], _ | object [], _ => by
      simp [writeAt]
  | integer value, _ => isPlain_of_visible (visible_of_mem_toString value)
  | number value, _ => isPlain_of_visible (visible_of_mem_textIn value)
  | string value, _ => isPlain_writeString value
  | array (element :: elements), level => by
      simp [writeAt, isPlain_writeAt indent element, isPlain_writeElements indent elements]
  | object ((name, value) :: members), level => by
      simp [writeAt, isPlain_writeAt indent value, isPlain_writeMembers indent members]

/-- The elements after the first one are plain. -/
theorem isPlain_writeElements (indent : Nat) : (elements : List Json) → ∀ level : Nat,
    IsPlain (writeElements indent level elements)
  | [], _ => isPlain_nil
  | element :: elements, level => by
      simp [writeElements, isPlain_writeAt indent element, isPlain_writeElements indent elements]

/-- The members after the first one are plain. -/
theorem isPlain_writeMembers (indent : Nat) : (members : List (String × Json)) → ∀ level : Nat,
    IsPlain (writeMembers indent level members)
  | [], _ => isPlain_nil
  | (name, value) :: members, level => by
      simp [writeMembers, isPlain_writeAt indent value, isPlain_writeMembers indent members]

end

end CrossRef.Json
