import CrossRef.Proofs.Json.Number
import CrossRef.Proofs.Json.String

/-!
Reading what was written: a value that is written with any indentation is read as the same value.
The names of an object have to be different, and whole numbers of a length that the reader takes.
-/

namespace CrossRef.Json

/-! Values that can be read back. -/

mutual

/-- A value is readable when its whole numbers are not too long and its objects have different
names. -/
def IsReadable : Json → Prop
  | null | boolean _ | number _ | string _ => True
  | integer value => (Nat.toDigits 10 value.natAbs).length ≤ digitLimit
  | array elements => AreReadable elements
  | object members => (Entries.names members).Nodup ∧ AreReadableMembers members

/-- All elements are readable. -/
def AreReadable : List Json → Prop
  | [] => True
  | element :: rest => element.IsReadable ∧ AreReadable rest

/-- The values of all members are readable. -/
def AreReadableMembers : List (String × Json) → Prop
  | [] => True
  | (_, value) :: rest => value.IsReadable ∧ AreReadableMembers rest

end

/-! Blanks. -/

/-- A new line is skipped with its indentation. -/
theorem skipSpace_newLine (indent level : Nat) (text : List Char) :
    skipSpace (newLine indent level ++ text) = skipSpace text := by
  have blank : ∀ c ∈ newLine indent level, isSpace c = true := by
    intro c member
    rcases List.mem_cons.mp member with rfl | space
    · rfl
    · rw [List.eq_of_mem_replicate space]
      rfl
  exact List.dropWhile_append_of_pos blank

theorem skipSpace_writeString (value : String) (rest : List Char) :
    skipSpace (writeString value ++ rest) = writeString value ++ rest :=
  rfl

/-- A value that is read starts with no blank, no bracket that closes an array, and no mark of the
byte order. -/
theorem head_of_readValue {bound : Nat} {c : Char} {text rest : List Char} {value : Json}
    (read : readValue bound (c :: text) = .ok (value, rest)) :
    isSpace c = false ∧ c ≠ ']' ∧ c ≠ '\uFEFF' := by
  cases bound with
  | zero => cases read
  | succ bound =>
      have other : ∀ c ∈ [' ', '\t', '\n', '\r', ']', '\uFEFF'],
          readValue (bound + 1) (c :: text) = .error (.fault .expectedValue (c :: text)) := by
        simp [readValue, takeKeyword?, keywords, readNumber, takeWhole, faultAt]
      have notMember : c ∉ [' ', '\t', '\n', '\r', ']', '\uFEFF'] := by
        intro member
        rw [other c member] at read
        cases read
      simp only [List.mem_cons, List.not_mem_nil, or_false, not_or] at notMember
      simp [isSpace, notMember]

/-- Nothing is skipped in front of a value. -/
theorem skipSpace_of_readValue {bound : Nat} {text rest : List Char} {value : Json}
    (read : readValue bound text = .ok (value, rest)) : skipSpace text = text := by
  cases text with
  | nil => rfl
  | cons c text => simp [skipSpace, (head_of_readValue read).1]

/-! What stands behind a value. -/

theorem endsValue_newLine (indent level : Nat) (rest : List Char) :
    EndsValue (newLine indent level ++ rest) := by
  intro c member
  exact Or.inr (Option.some.inj member).symm

/-- The elements that follow one end it, and so does the end of the array. -/
theorem endsValue_writeElements (indent level outer : Nat) (elements : List Json)
    (rest : List Char) :
    EndsValue (writeElements indent level elements ++ (newLine indent outer ++ rest)) := by
  cases elements with
  | nil => exact endsValue_newLine indent outer rest
  | cons element elements =>
      intro c member
      rw [writeElements] at member
      exact Or.inl (Option.some.inj member).symm

/-- The members that follow one end its value, and so does the end of the object. -/
theorem endsValue_writeMembers (indent level outer : Nat) (members : List (String × Json))
    (rest : List Char) :
    EndsValue (writeMembers indent level members ++ (newLine indent outer ++ rest)) := by
  cases members with
  | nil => exact endsValue_newLine indent outer rest
  | cons entry members =>
      intro c member
      rw [writeMembers] at member
      exact Or.inl (Option.some.inj member).symm

/-! Steps of the reader. -/

/-- A written string is read as a value. -/
theorem readValue_writeString (value : String) (bound : Nat) (rest : List Char) :
    readValue (bound + 1) (writeString value ++ rest) = .ok (.string value, rest) := by
  have marked : writeString value ++ rest =
      '"' :: (value.toList.flatMap escapeChar ++ '"' :: rest) := by
    simp [writeString]
  rw [marked, readValue, readString_writeString]
  rfl

section Elements

variable {bound : Nat} {first : Json} {elements : List Json} {text inside rest : List Char}

/-- No elements start with the bracket that closes an array. -/
theorem ne_closing_of_readElements (read : readElements bound text = .ok (elements, rest))
    (tail : List Char) : text ≠ ']' :: tail := by
  rintro rfl
  cases bound with
  | zero => cases read
  | succ bound =>
      rw [readElements] at read
      cases value : readValue bound (']' :: tail) with
      | error obstacle =>
          rw [value] at read
          cases read
      | ok found => exact (head_of_readValue value).2.1 rfl

/-- An array is read by its elements. -/
theorem readValue_array (read : readElements bound (skipSpace inside) = .ok (elements, rest)) :
    readValue (bound + 1) ('[' :: inside) = .ok (.array elements, rest) := by
  rw [readValue]
  split
  · next tail closed => exact absurd closed (ne_closing_of_readElements read tail)
  · rw [read]
    rfl

/-- The last element stands before the bracket that closes the array. -/
theorem readElements_last {indent level : Nat}
    (read : readValue bound text = .ok (first, newLine indent level ++ ']' :: rest)) :
    readElements (bound + 1) text = .ok ([first], rest) := by
  rw [readElements, read]
  simp only [bind, Except.bind, skipSpace_newLine]
  rfl

/-- Any other element stands before a comma. -/
theorem readElements_next (read : readValue bound text = .ok (first, ',' :: inside))
    (others : readElements bound (skipSpace inside) = .ok (elements, rest)) :
    readElements (bound + 1) text = .ok (first :: elements, rest) := by
  have comma : skipSpace (',' :: inside) = ',' :: inside := rfl
  rw [readElements, read]
  simp only [bind, Except.bind, comma, others]
  rfl

end Elements

section Members

variable {bound : Nat} {value : Json} {members : List (String × Json)}
  {text inside rest : List Char}

/-- An object is read by its members when these have different names. -/
theorem readValue_object (distinct : (Entries.names members).Nodup)
    (read : readMembers bound (skipSpace inside) = .ok (members, rest)) :
    readValue (bound + 1) ('\x7b' :: inside) = .ok (.object members, rest) := by
  rw [readValue]
  split
  · next tail closed =>
      rw [closed] at read
      cases bound <;> cases read
  · rw [read]
    simp only [bind, Except.bind, Entries.ofList_of_nodup distinct]
    rfl

/-- A member is a written name, a colon and a value. -/
theorem readMembers_member (name : String) {tail : List Char}
    (read : readValue bound text = .ok (value, tail)) :
    readMembers (bound + 1) (writeString name ++ ':' :: ' ' :: text) =
      match skipSpace tail with
      | '\x7d' :: afterObject => .ok ([(name, value)], afterObject)
      | ',' :: next => do
        let (members, afterObject) ← readMembers bound (skipSpace next)
        return ((name, value) :: members, afterObject)
      | other => faultAt .expectedComma other := by
  have marked : writeString name ++ ':' :: ' ' :: text =
      '"' :: (name.toList.flatMap escapeChar ++ '"' :: ':' :: ' ' :: text) := by
    simp [writeString]
  have colon : skipSpace (':' :: ' ' :: text) = ':' :: ' ' :: text := rfl
  have space : skipSpace (' ' :: text) = text := skipSpace_of_readValue read
  rw [marked, readMembers, readString_writeString]
  simp only [bind, Except.bind, colon, space, read]
  rfl

theorem readMembers_last (name : String) {indent level : Nat}
    (read : readValue bound text = .ok (value, newLine indent level ++ '\x7d' :: rest)) :
    readMembers (bound + 1) (writeString name ++ ':' :: ' ' :: text) =
      .ok ([(name, value)], rest) := by
  rw [readMembers_member name read, skipSpace_newLine]
  rfl

/-- Any other member stands before a comma. -/
theorem readMembers_next (name : String)
    (read : readValue bound text = .ok (value, ',' :: inside))
    (others : readMembers bound (skipSpace inside) = .ok (members, rest)) :
    readMembers (bound + 1) (writeString name ++ ':' :: ' ' :: text) =
      .ok ((name, value) :: members, rest) := by
  have comma : skipSpace (',' :: inside) = ',' :: inside := rfl
  rw [readMembers_member name read, comma]
  simp only [bind, Except.bind, others]
  rfl

end Members

/-! Reading what was written. -/

mutual

/-- A written value is read back, whatever ends it, when the bound is more than twice the
length of its text. -/
theorem readValue_writeAt (indent : Nat) : (value : Json) → value.IsReadable →
    ∀ (level bound : Nat) (rest : List Char), EndsValue rest →
      2 * (writeAt indent level value).length < bound →
        readValue bound (writeAt indent level value ++ rest) = .ok (value, rest)
  | null, _, level, bound, rest, _, enough => by
      obtain ⟨more, rfl⟩ := Nat.exists_eq_add_one.mpr (Nat.zero_lt_of_lt enough)
      rfl
  | boolean true, _, level, bound, rest, _, enough => by
      obtain ⟨more, rfl⟩ := Nat.exists_eq_add_one.mpr (Nat.zero_lt_of_lt enough)
      rfl
  | boolean false, _, level, bound, rest, _, enough => by
      obtain ⟨more, rfl⟩ := Nat.exists_eq_add_one.mpr (Nat.zero_lt_of_lt enough)
      rfl
  | integer value, readable, level, bound, rest, ends, enough => by
      obtain ⟨more, rfl⟩ := Nat.exists_eq_add_one.mpr (Nat.zero_lt_of_lt enough)
      rw [writeAt, readValue_integer readable more ends]
  | number value, _, level, bound, rest, ends, enough => by
      obtain ⟨more, rfl⟩ := Nat.exists_eq_add_one.mpr (Nat.zero_lt_of_lt enough)
      rw [writeAt, readValue_number value more ends]
  | string value, _, level, bound, rest, _, enough => by
      obtain ⟨more, rfl⟩ := Nat.exists_eq_add_one.mpr (Nat.zero_lt_of_lt enough)
      rw [writeAt, readValue_writeString]
  | array [], _, level, bound, rest, _, enough => by
      obtain ⟨more, rfl⟩ := Nat.exists_eq_add_one.mpr (Nat.zero_lt_of_lt enough)
      rfl
  | array (element :: elements), readable, level, bound, rest, _, enough => by
      obtain ⟨one, others⟩ := readable
      -- Two calls lead to the first element, and the brackets alone have made room for them.
      simp only [writeAt, List.length_append, List.length_cons] at enough
      obtain ⟨more, rfl⟩ := Nat.exists_eq_add_of_le' (show 2 ≤ bound by omega)
      have ends := endsValue_writeElements indent (level + 1) level elements (']' :: rest)
      have first := readValue_writeAt indent element one (level + 1) more _ ends (by omega)
      have read := readElements_writeElements indent elements others (level + 1) level more rest
        first (by omega)
      rw [← skipSpace_of_readValue first, ← skipSpace_newLine indent (level + 1)] at read
      simpa [writeAt] using readValue_array read
  | object [], _, level, bound, rest, _, enough => by
      obtain ⟨more, rfl⟩ := Nat.exists_eq_add_one.mpr (Nat.zero_lt_of_lt enough)
      rfl
  | object ((name, value) :: members), readable, level, bound, rest, _, enough => by
      obtain ⟨distinct, one, others⟩ := readable
      simp only [writeAt, List.length_append, List.length_cons] at enough
      obtain ⟨more, rfl⟩ := Nat.exists_eq_add_of_le' (show 2 ≤ bound by omega)
      have ends := endsValue_writeMembers indent (level + 1) level members ('\x7d' :: rest)
      have first := readValue_writeAt indent value one (level + 1) more _ ends (by omega)
      have read := readMembers_writeMembers indent members others (level + 1) level more rest
        name first (by omega)
      rw [← skipSpace_writeString, ← skipSpace_newLine indent (level + 1)] at read
      simpa [writeAt] using readValue_object distinct read

/-- The elements after one that is read are read up to the end of the array. -/
theorem readElements_writeElements (indent : Nat) : (elements : List Json) →
    AreReadable elements → ∀ (level outer bound : Nat) (rest : List Char) {first : Json}
      {text : List Char},
      readValue bound text =
        .ok (first, writeElements indent level elements ++ (newLine indent outer ++ ']' :: rest)) →
      2 * (writeElements indent level elements).length ≤ bound →
        readElements (bound + 1) text = .ok (first :: elements, rest)
  | [], _, level, outer, bound, rest, first, text, read, _ => readElements_last read
  | element :: elements, readable, level, outer, bound, rest, first, text, read, enough => by
      obtain ⟨one, others⟩ := readable
      simp only [writeElements, List.length_append, List.length_cons] at enough
      obtain ⟨more, rfl⟩ := Nat.exists_eq_add_of_le' (show 1 ≤ bound by omega)
      have ends := endsValue_writeElements indent level outer elements (']' :: rest)
      have next := readValue_writeAt indent element one level more _ ends (by omega)
      have later := readElements_writeElements indent elements others level outer more rest next
        (by omega)
      rw [← skipSpace_of_readValue next, ← skipSpace_newLine indent level] at later
      refine readElements_next ?_ later
      simpa [writeElements] using read

/-- The members after one that is read are read up to the end of the object. -/
theorem readMembers_writeMembers (indent : Nat) : (members : List (String × Json)) →
    AreReadableMembers members → ∀ (level outer bound : Nat) (rest : List Char) (name : String)
      {value : Json} {text : List Char},
      readValue bound text = .ok (value, writeMembers indent level members ++
        (newLine indent outer ++ '\x7d' :: rest)) →
      2 * (writeMembers indent level members).length ≤ bound →
        readMembers (bound + 1) (writeString name ++ ':' :: ' ' :: text) =
          .ok ((name, value) :: members, rest)
  | [], _, level, outer, bound, rest, name, value, text, read, _ => readMembers_last name read
  | (other, next) :: members, readable, level, outer, bound, rest, name, value, text, read,
      enough => by
      obtain ⟨one, others⟩ := readable
      simp only [writeMembers, List.length_append, List.length_cons] at enough
      obtain ⟨more, rfl⟩ := Nat.exists_eq_add_of_le' (show 1 ≤ bound by omega)
      have ends := endsValue_writeMembers indent level outer members ('\x7d' :: rest)
      have next := readValue_writeAt indent next one level more _ ends (by omega)
      have later := readMembers_writeMembers indent members others level outer more rest other next
        (by omega)
      rw [← skipSpace_writeString, ← skipSpace_newLine indent level] at later
      refine readMembers_next name ?_ later
      simpa [writeMembers] using read

end

/-! Main result. -/

/-- The text of a value is read as the value. -/
theorem read_write (indent : Nat) {value : Json} (readable : value.IsReadable) :
    read (value.write indent).toList = .ok value := by
  obtain ⟨text, written⟩ : ∃ text, writeAt indent 0 value = text := ⟨_, rfl⟩
  have back : readValue (2 * text.length + 2) text = .ok (value, []) := by
    have ends : EndsValue [] := by simp [EndsValue]
    have enough : 2 * (writeAt indent 0 value).length < 2 * text.length + 2 := by
      rw [written]
      omega
    have found := readValue_writeAt indent value readable 0 _ [] ends enough
    rwa [written, List.append_nil] at found
  have noMark : ∀ tail, text ≠ '\uFEFF' :: tail := by
    rintro tail rfl
    exact (head_of_readValue back).2.2 rfl
  have whole : readText text = .ok value := by
    rw [readText]
    · simp only [bind, Except.bind, skipSpace_of_readValue back, back]
      rfl
    · exact noMark
  rw [write, String.toList_ofList, written, read, whole]

end CrossRef.Json
