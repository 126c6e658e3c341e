import CrossRef.Proofs.Text.Encoding
import CrossRef.Text.Percent

/-!
Percent encoding can be undone: an encoded text is a component of an address, and the bytes that the
component spells are those of the text.
-/

namespace CrossRef.Text

/-! Components. -/

/-- The characters that a component may hold as they are. -/
def IsComponentChar (c : Char) : Prop :=
  c.isAlphanum = true ∨ c ∈ "-_.!~*'()".toList

/-- The digits of an escape. -/
def escapeDigits : List Char := "0123456789ABCDEF".toList

/-- A component is made of characters that stand for themselves and of escapes, a percent sign with
two digits. -/
inductive IsComponent : List Char → Prop
  | nil : IsComponent []
  | plain {c : Char} {rest : List Char} (allowed : IsComponentChar c) (later : IsComponent rest) :
      IsComponent (c :: rest)
  | escape {high low : Char} {rest : List Char} (isHigh : high ∈ escapeDigits)
      (isLow : low ∈ escapeDigits) (later : IsComponent rest) :
      IsComponent ('%' :: high :: low :: rest)

/-- The byte that an escape stands for. Digits are read in either case. -/
def escapedByte? (sign high low : Char) : Option UInt8 :=
  if sign = '%' then do
    let high ← escapeDigits.idxOf? high.toUpper
    let low ← escapeDigits.idxOf? low.toUpper
    return UInt8.ofNat (high * 16 + low)
  else none

/-- The bytes that a text spells: an escape stands for one byte, and every character outside of
escapes for its own bytes. Fewer than three characters hold no escape. -/
def percentDecoded : List Char → List UInt8
  | c :: high :: low :: rest =>
    match escapedByte? c high low with
    | some byte => byte :: percentDecoded rest
    | none => String.utf8EncodeChar c ++ percentDecoded (high :: low :: rest)
  | few => few.flatMap String.utf8EncodeChar

/-! Single bytes. -/

/-- Upper case digits are digits of an escape, and are read as their value. -/
theorem mem_escapeDigits : ∀ digit < 16, (Nat.digitChar digit).toUpper ∈ escapeDigits ∧
    escapeDigits.idxOf? (Nat.digitChar digit).toUpper.toUpper = some digit := by
  decide

/-- The numeral of a byte has two digits, the sixteens before the ones. -/
theorem upperHex_two {value : Nat} (small : value < 256) :
    upperHex 2 value =
      [(Nat.digitChar (value / 16)).toUpper, (Nat.digitChar (value % 16)).toUpper] := by
  have sixteens : value / 16 % 16 = value / 16 := by omega
  change [(Nat.digitChar (value / 16 % 16)).toUpper, (Nat.digitChar (value % 16)).toUpper] = _
  rw [sixteens]

/-- The percent sign starts an escape, and stands in a component for nothing else. -/
theorem not_isComponentChar_percent : ¬IsComponentChar '%' := by
  unfold IsComponentChar
  decide

/-- A byte that is not escaped is written as the ASCII character with its number, which a component
may hold as it is. -/
theorem isComponentChar_of_isUnreserved {byte : UInt8} (unreserved : isUnreserved byte = true) :
    byte.toNat < 0x80 ∧ IsComponentChar (Char.ofNat byte.toNat) := by
  simp only [isUnreserved, Bool.and_eq_true, decide_eq_true_eq, Bool.or_eq_true,
    List.contains_iff_mem] at unreserved
  exact ⟨UInt8.lt_iff_toNat_lt.mp unreserved.1, unreserved.2⟩

/-- An ASCII character is encoded as the byte with its number. -/
theorem utf8EncodeChar_ofNat {byte : UInt8} (ascii : byte.toNat < 0x80) :
    String.utf8EncodeChar (Char.ofNat byte.toNat) = [byte] := by
  have valid : byte.toNat.isValidChar := Or.inl (by omega)
  have number : (Char.ofNat byte.toNat).val.toNat = byte.toNat := by
    rw [Char.ofNat, dif_pos valid]
    rfl
  rw [String.utf8EncodeChar.eq_1, number, if_pos (by omega), UInt8.ofNat_toNat]

/-- A character other than the percent sign spells its own bytes. -/
theorem percentDecoded_cons {c : Char} (plain : c ≠ '%') (rest : List Char) :
    percentDecoded (c :: rest) = String.utf8EncodeChar c ++ percentDecoded rest := by
  match rest with
  | [] => rfl
  | [second] => rfl
  | high :: low :: later => rw [percentDecoded, escapedByte?, if_neg plain]

/-- An encoded byte is read as the byte, whatever follows it. -/
theorem percentDecoded_percentByte (byte : UInt8) (rest : List Char) :
    percentDecoded (percentByte byte ++ rest) = byte :: percentDecoded rest := by
  unfold percentByte
  split
  · next unreserved =>
      obtain ⟨ascii, allowed⟩ := isComponentChar_of_isUnreserved unreserved
      have plain : Char.ofNat byte.toNat ≠ '%' := fun sign =>
        not_isComponentChar_percent (sign ▸ allowed)
      rw [List.singleton_append, percentDecoded_cons plain, utf8EncodeChar_ofNat ascii,
        List.singleton_append]
  · have small : byte.toNat < 256 := byte.toNat_lt
    have whole : byte.toNat / 16 * 16 + byte.toNat % 16 = byte.toNat := by omega
    have read : escapedByte? '%' (Nat.digitChar (byte.toNat / 16)).toUpper
        (Nat.digitChar (byte.toNat % 16)).toUpper = some byte := by
      rw [escapedByte?, if_pos rfl, (mem_escapeDigits _ (by omega)).2,
        (mem_escapeDigits _ (by omega)).2]
      change some (UInt8.ofNat (byte.toNat / 16 * 16 + byte.toNat % 16)) = _
      rw [whole, UInt8.ofNat_toNat]
    rw [upperHex_two small, List.cons_append, List.cons_append, List.singleton_append,
      percentDecoded, read]

/-- An encoded byte continues a component. -/
theorem IsComponent.percentByte_append (byte : UInt8) {rest : List Char}
    (later : IsComponent rest) : IsComponent (percentByte byte ++ rest) := by
  unfold percentByte
  split
  · next unreserved => exact .plain (isComponentChar_of_isUnreserved unreserved).2 later
  · have small : byte.toNat < 256 := byte.toNat_lt
    rw [upperHex_two small]
    exact .escape (mem_escapeDigits _ (by omega)).1 (mem_escapeDigits _ (by omega)).1 later

/-! Texts. -/

/-- Encoded bytes are read as the bytes. -/
theorem percentDecoded_flatMap (bytes : List UInt8) :
    percentDecoded (bytes.flatMap percentByte) = bytes := by
  induction bytes with
  | nil => rfl
  | cons byte rest ih => rw [List.flatMap_cons, percentDecoded_percentByte, ih]

/-- Encoded bytes are a component. -/
theorem isComponent_flatMap (bytes : List UInt8) : IsComponent (bytes.flatMap percentByte) := by
  induction bytes with
  | nil => exact .nil
  | cons byte rest ih =>
      rw [List.flatMap_cons]
      exact ih.percentByte_append byte

/-- An encoded text is a component. -/
theorem isComponent_percentEncoded (text : String) : IsComponent (percentEncoded text).toList := by
  rw [percentEncoded, String.toList_ofList]
  exact isComponent_flatMap _

/-- The bytes that an encoded text spells are read as the text. -/
theorem decodeUtf8_percentEncoded (text : String) :
    decodeUtf8 (percentDecoded (percentEncoded text).toList) = .ok text.toList := by
  rw [percentEncoded, String.toList_ofList, percentDecoded_flatMap, decodeUtf8_encode]

/-- Different texts are encoded differently. -/
theorem percentEncoded_inj {first second : String} :
    percentEncoded first = percentEncoded second ↔ first = second := by
  refine ⟨fun same => ?_, congrArg percentEncoded⟩
  have read := decodeUtf8_percentEncoded first
  rw [same, decodeUtf8_percentEncoded, Except.ok.injEq] at read
  exact (String.toList_injective read).symm

end CrossRef.Text
