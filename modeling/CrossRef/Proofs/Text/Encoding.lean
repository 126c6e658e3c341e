import CrossRef.Text.Utf8
import Mathlib.Data.List.Basic

/-!
The bytes of a text in UTF-8 are read back as the text.
-/

namespace CrossRef.Text

/-! Lead bytes. -/

/-- The lead of two bytes holds five bits, and at least the second of them or a higher one. -/
theorem utf8Lead?_two : ∀ share < 32, 2 ≤ share →
    utf8Lead? (UInt8.ofNat (share + 0xC0)) = some ⟨1, 0x80, 0xBF, share⟩ := by
  decide

/-- The lead of three bytes holds four bits. Where they are all clear the next byte is bounded from
below, and where they lead to the surrogates it is bounded from above. -/
theorem utf8Lead?_three : ∀ share < 16,
    utf8Lead? (UInt8.ofNat (share + 0xE0)) =
      some ⟨2, if share = 0 then 0xA0 else 0x80, if share = 13 then 0x9F else 0xBF, share⟩ := by
  decide

/-- The lead of four bytes holds three bits, bounded by the last plane. -/
theorem utf8Lead?_four : ∀ share < 5,
    utf8Lead? (UInt8.ofNat (share + 0xF0)) =
      some ⟨3, if share = 0 then 0x90 else 0x80, if share = 4 then 0x8F else 0xBF, share⟩ := by
  decide

/-- A lead is no character of its own. -/
theorem not_lt_of_lead {share : Nat} (high : 0x80 ≤ share) (byte : share < 0x100) :
    ¬UInt8.ofNat share < 0x80 := by
  rw [UInt8.lt_iff_toNat_lt, UInt8.toNat_ofNat', Nat.mod_eq_of_lt byte]
  exact Nat.not_lt.mpr high

/-- A byte that starts no character of its own is looked up as a lead. -/
theorem decodeUtf8From_lead {position : Nat} {byte : UInt8} {lead : Utf8Lead} {rest : List UInt8}
    (high : ¬byte < 0x80) (leads : utf8Lead? byte = some lead) :
    decodeUtf8From position none (byte :: rest) =
      decodeUtf8From (position + 1) (some ⟨position, byte, lead⟩) rest := by
  rw [decodeUtf8From, if_neg high, leads]

/-! Bytes after the lead. -/

section Following

variable {position start share bits : Nat} {firstByte least greatest : UInt8} {rest : List UInt8}

/-- The value of a byte that holds six bits. -/
theorem toNat_following (small : bits < 64) : (UInt8.ofNat (bits + 0x80)).toNat = bits + 0x80 := by
  rw [UInt8.toNat_ofNat']
  omega

/-- Six bits reach the lower bound of the bytes after the lead. -/
theorem le_following (bits : Nat) : (0x80 : UInt8).toNat ≤ bits + 0x80 :=
  Nat.le_add_left _ _

/-- Six bits stay within the upper bound of the bytes after the lead. -/
theorem following_le (small : bits < 64) : bits + 0x80 ≤ (0xBF : UInt8).toNat := by
  change bits + 0x80 ≤ 0xBF
  omega

/-- A byte within its bounds adds six bits, and more bytes follow. -/
theorem decodeUtf8From_following (following : Nat) (small : bits < 64)
    (low : least.toNat ≤ bits + 0x80) (high : bits + 0x80 ≤ greatest.toNat) :
    decodeUtf8From position (some ⟨start, firstByte, ⟨following + 2, least, greatest, share⟩⟩)
        (UInt8.ofNat (bits + 0x80) :: rest) =
      decodeUtf8From (position + 1)
        (some ⟨start, firstByte, ⟨following + 1, 0x80, 0xBF, share * 64 + bits⟩⟩) rest := by
  have value := toNat_following small
  have within : least ≤ UInt8.ofNat (bits + 0x80) ∧ UInt8.ofNat (bits + 0x80) ≤ greatest := by
    rw [UInt8.le_iff_toNat_le, UInt8.le_iff_toNat_le, value]
    exact ⟨low, high⟩
  have more : ¬following + 2 ≤ 1 := by omega
  rw [decodeUtf8From, if_pos within, if_neg more, value, Nat.add_sub_cancel]
  rfl

/-- The last byte within its bounds completes the character. -/
theorem decodeUtf8From_last (small : bits < 64)
    (low : least.toNat ≤ bits + 0x80) (high : bits + 0x80 ≤ greatest.toNat) :
    decodeUtf8From position (some ⟨start, firstByte, ⟨1, least, greatest, share⟩⟩)
        (UInt8.ofNat (bits + 0x80) :: rest) =
      (decodeUtf8From (position + 1) none rest).map (Char.ofNat (share * 64 + bits) :: ·) := by
  have value := toNat_following small
  have within : least ≤ UInt8.ofNat (bits + 0x80) ∧ UInt8.ofNat (bits + 0x80) ≤ greatest := by
    rw [UInt8.le_iff_toNat_le, UInt8.le_iff_toNat_le, value]
    exact ⟨low, high⟩
  rw [decodeUtf8From, if_pos within, if_pos (Nat.le_refl 1), value, Nat.add_sub_cancel]

end Following

/-! Characters and texts. -/

/-- A character is a code point of one of the planes, and no surrogate. -/
theorem toNat_bounds (c : Char) :
    c.toNat < 0x110000 ∧ ¬(0xD800 ≤ c.toNat ∧ c.toNat < 0xE000) := by
  have valid : c.toNat < 0xD800 ∨ 0xDFFF < c.toNat ∧ c.toNat < 0x110000 := c.valid
  omega

/-- The bytes of a character are read as the character, whatever follows them. -/
theorem decodeUtf8From_encodeChar (position : Nat) (c : Char) (rest : List UInt8) :
    decodeUtf8From position none (String.utf8EncodeChar c ++ rest) =
      (decodeUtf8From (position + (String.utf8EncodeChar c).length) none rest).map (c :: ·) := by
  obtain ⟨inPlane, noSurrogate⟩ := toNat_bounds c
  have self : Char.ofNat c.toNat = c := Char.ofNat_toNat c
  change c.val.toNat < _ at inPlane
  change ¬(_ ≤ c.val.toNat ∧ c.val.toNat < _) at noSurrogate
  change Char.ofNat c.val.toNat = c at self
  -- One case for each number of bytes.
  fun_cases String.utf8EncodeChar c with
  | case1 v small =>
      have ascii : (UInt8.ofNat v).toNat = v := by
        rw [UInt8.toNat_ofNat']
        omega
      have low : UInt8.ofNat v < 0x80 := by
        rw [UInt8.lt_iff_toNat_lt, ascii]
        exact Nat.lt_succ_of_le small
      rw [List.singleton_append, decodeUtf8From, if_pos low, ascii, self]
      rfl
  | case2 v big small =>
      have lead := utf8Lead?_two (v / 64 % 32) (by omega) (by omega)
      have whole : v / 64 % 32 * 64 + v % 64 = v := by omega
      rw [List.cons_append, decodeUtf8From_lead (not_lt_of_lead (by omega) (by omega)) lead,
        List.singleton_append, decodeUtf8From_last (by omega) (le_following _)
          (following_le (by omega)), whole, self]
      rfl
  | case3 v big bigger small =>
      have lead := utf8Lead?_three (v / 4096 % 16) (by omega)
      have whole : (v / 4096 % 16 * 64 + v / 64 % 64) * 64 + v % 64 = v := by omega
      have low : (if v / 4096 % 16 = 0 then 0xA0 else 0x80 : UInt8).toNat ≤ v / 64 % 64 + 0x80 := by
        split
        · change 0xA0 ≤ _
          omega
        · exact le_following _
      have high : v / 64 % 64 + 0x80 ≤
          (if v / 4096 % 16 = 13 then 0x9F else 0xBF : UInt8).toNat := by
        split
        · change _ ≤ 0x9F
          omega
        · exact following_le (by omega)
      rw [List.cons_append, decodeUtf8From_lead (not_lt_of_lead (by omega) (by omega)) lead,
        List.cons_append, decodeUtf8From_following 0 (by omega) low high, List.singleton_append,
        decodeUtf8From_last (by omega) (le_following _) (following_le (by omega)), whole, self]
      rfl
  | case4 v big bigger biggest =>
      have lead := utf8Lead?_four (v / 262144 % 8) (by omega)
      have whole :
          ((v / 262144 % 8 * 64 + v / 4096 % 64) * 64 + v / 64 % 64) * 64 + v % 64 = v := by
        omega
      have low : (if v / 262144 % 8 = 0 then 0x90 else 0x80 : UInt8).toNat ≤
          v / 4096 % 64 + 0x80 := by
        split
        · change 0x90 ≤ _
          omega
        · exact le_following _
      have high : v / 4096 % 64 + 0x80 ≤
          (if v / 262144 % 8 = 4 then 0x8F else 0xBF : UInt8).toNat := by
        split
        · change _ ≤ 0x8F
          omega
        · exact following_le (by omega)
      rw [List.cons_append, decodeUtf8From_lead (not_lt_of_lead (by omega) (by omega)) lead,
        List.cons_append, decodeUtf8From_following 1 (by omega) low high, List.cons_append,
        decodeUtf8From_following 0 (by omega) (le_following _) (following_le (by omega)),
        List.singleton_append,
        decodeUtf8From_last (by omega) (le_following _) (following_le (by omega)), whole, self]
      rfl

/-- The bytes of a text are read as the text, at any position. -/
theorem decodeUtf8From_encode (position : Nat) (text : List Char) :
    decodeUtf8From position none (text.flatMap String.utf8EncodeChar) = .ok text := by
  induction text generalizing position with
  | nil => rfl
  | cons c rest ih =>
      rw [List.flatMap_cons, decodeUtf8From_encodeChar, ih]
      rfl

/-- The bytes of a text are read as the text. -/
theorem decodeUtf8_encode (text : List Char) :
    decodeUtf8 (text.flatMap String.utf8EncodeChar) = .ok text :=
  decodeUtf8From_encode 0 text

end CrossRef.Text
