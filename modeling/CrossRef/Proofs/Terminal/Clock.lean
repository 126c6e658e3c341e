import CrossRef.Proofs.Terminal.Literal

/-!
The time of day in front of a message. Its minutes stand between colons as a code does, but no emoji
has a name of two digits.
-/

namespace CrossRef

namespace Emoji

/-- A name of two digits. It is told by its bytes, of which only the first few are looked at. -/
def isTwoDigits (name : String) : Bool :=
  match name.toByteArray.data.toList with
  | [first, second] =>
    0x30 ≤ first.toNat && first.toNat ≤ 0x39 && 0x30 ≤ second.toNat && second.toNat ≤ 0x39
  | _ => false

/-- A digit by its number. -/
theorem toNat_of_isDigit {c : Char} (digit : c.isDigit = true) : 48 ≤ c.toNat ∧ c.toNat ≤ 57 := by
  simpa [Char.isDigit, UInt32.le_iff_toNat_le] using digit

/-- A digit is a byte. -/
theorem utf8EncodeChar_of_isDigit {c : Char} (digit : c.isDigit = true) :
    String.utf8EncodeChar c = [UInt8.ofNat c.toNat] := by
  have small : c.toNat ≤ 127 := (toNat_of_isDigit digit).2.trans (by decide)
  simp [String.utf8EncodeChar.eq_1, small]

section TwoDigits

variable {first second : Char}

/-- Two digits are such a name. -/
theorem isTwoDigits_ofList (digit : first.isDigit = true) (other : second.isDigit = true) :
    isTwoDigits (String.ofList [first, second]) = true := by
  have bytes : (String.ofList [first, second]).toByteArray.data.toList =
      [UInt8.ofNat first.toNat, UInt8.ofNat second.toNat] := by
    simp [String.toByteArray_ofList, List.utf8Encode.eq_1, utf8EncodeChar_of_isDigit digit,
      utf8EncodeChar_of_isDigit other, -String.ofList_cons]
  have range := toNat_of_isDigit digit
  have otherRange := toNat_of_isDigit other
  have byte : first.toNat % 256 = first.toNat := Nat.mod_eq_of_lt (by omega)
  have otherByte : second.toNat % 256 = second.toNat := Nat.mod_eq_of_lt (by omega)
  rw [isTwoDigits, bytes]
  simp [range, otherRange, byte, otherByte]

/-- No name in the tables consists of two digits. -/
structure NoTwoDigits : Prop where
  characters : characterNames.all (·.2.all (!isTwoDigits ·)) = true
  sequences : sequenceNames.all (·.2.all (!isTwoDigits ·)) = true
  flags : flagNames.all (·.2.all (!isTwoDigits ·)) = true
  regions : regionNames.all (!isTwoDigits ·.2) = true

/-- The names are as they have to be. -/
theorem noTwoDigits : NoTwoDigits where
  characters := by decide +kernel
  sequences := by decide +kernel
  flags := by decide +kernel
  regions := by decide +kernel

/-- A table without such a name has no entry for one. -/
theorem lookUp_eq_none {α : Type} {table : List (α × List String)}
    (others : table.all (·.2.all (!isTwoDigits ·)) = true) {name : String}
    (digits : isTwoDigits name = true) : lookUp table name = none := by
  rw [lookUp, Option.map_eq_none_iff, List.find?_eq_none]
  intro entry listed named
  have other := List.all_eq_true.mp (List.all_eq_true.mp others entry listed) name
    (List.contains_iff_mem.mp named)
  rw [digits] at other
  cases other

/-- No region has such a name. -/
theorem find?_regionNames (digit : first.isDigit = true) (other : second.isDigit = true) :
    regionNames.find? (fun entry => namesFlag entry.2 (String.ofList [first, second])) = none := by
  rw [List.find?_eq_none]
  intro entry listed named
  simp only [namesFlag, Bool.or_eq_true, decide_eq_true_eq] at named
  rcases named with name | flagName
  · have others := List.all_eq_true.mp noTwoDigits.regions entry listed
    rw [name, isTwoDigits_ofList digit other] at others
    cases others
  · have length := congrArg String.length flagName
    have start : "flag_for_".length = 9 := by decide
    have short : (String.ofList [first, second]).length = 2 := String.length_ofList
    rw [String.length_append] at length
    omega

theorem untoned?_of_digits (digit : first.isDigit = true) (other : second.isDigit = true) :
    untoned? (String.ofList [first, second]) = none := by
  have digits := isTwoDigits_ofList digit other
  rw [untoned?, lookUp_eq_none noTwoDigits.characters digits,
    lookUp_eq_none noTwoDigits.sequences digits, lookUp_eq_none noTwoDigits.flags digits,
    find?_regionNames digit other]
  rfl

/-- The name of a toned emoji is longer than two characters. -/
theorem toned?_of_pair (first second : Char) : toned? (String.ofList [first, second]) = none := by
  rw [toned?, List.findSome?_eq_none_iff]
  intro tone listed
  rw [Option.bind_eq_none_iff]
  intro base found
  have named := List.find?_some found
  have length := congrArg String.length (of_decide_eq_true named)
  have short : (String.ofList [first, second]).length = 2 := String.length_ofList
  have ending : "_skin_tone".length = 10 := by decide
  simp only [String.length_append] at length
  omega

/-- A digit has no letter case, stands inside codes, and is no mark. -/
theorem of_isDigit {c : Char} (digit : c.isDigit = true) :
    lowerLetter c = c ∧ isInside c = true ∧ Markup.isMark c = false := by
  have all : ∀ point < 58, 48 ≤ point → lowerLetter (Char.ofNat point) = Char.ofNat point ∧
      isInside (Char.ofNat point) = true ∧ Markup.isMark (Char.ofNat point) = false := by
    decide
  obtain ⟨low, high⟩ := toNat_of_isDigit digit
  have fixed := all c.toNat (Nat.lt_succ_of_le high) low
  rwa [Char.ofNat_toNat] at fixed

/-- Two digits between colons are no code. -/
theorem ofCode?_of_digits (digit : first.isDigit = true) (other : second.isDigit = true) :
    ofCode? [first, second] = none := by
  have noVariant : variants.find? (fun variant => variant.1.isSuffixOf [first, second]) = none := by
    rw [List.find?_eq_none]
    intro variant listed ending
    have long : ∀ variant ∈ variants, 2 < variant.1.length := by decide
    have short := (List.isSuffixOf_iff_suffix.mp ending).length_le
    exact absurd short (Nat.not_le.mpr (long variant listed))
  have lowered : [first, second].map lowerLetter = [first, second] := by
    rw [List.map_cons, List.map_singleton, (of_isDigit digit).1, (of_isDigit other).1]
  simp only [ofCode?, noVariant, lowered, ofName?, untoned?_of_digits digit other,
    toned?_of_pair]
  rfl

end TwoDigits

end Emoji

namespace Markup

/-- A time of day: the hours, the minutes and the seconds, in two digits each. -/
def IsTimeOfDay (clock : List Char) : Prop :=
  ∃ hour hours minute minutes second seconds : Char,
    (∀ digit ∈ [hour, hours, minute, minutes, second, seconds], digit.isDigit = true) ∧
      clock = [hour, hours, ':', minute, minutes, ':', second, seconds]

namespace IsTimeOfDay

variable {clock : List Char}

/-- A time of day holds no marks but colons. -/
theorem isMark_or_colon (time : IsTimeOfDay clock) : ∀ c ∈ clock, isMark c = false ∨ c = ':' := by
  obtain ⟨hour, hours, minute, minutes, second, seconds, digits, rfl⟩ := time
  have bare := fun digit member => (Emoji.of_isDigit (digits digit member)).2.2
  simp only [List.forall_mem_cons] at bare
  simp [bare]

/-- The minutes are no code. -/
theorem replaceCodes_eq (time : IsTimeOfDay clock) : Emoji.replaceCodes clock = clock := by
  obtain ⟨hour, hours, minute, minutes, second, seconds, digits, rfl⟩ := time
  have noColon (c : Char) (digit : c.isDigit = true) : c ≠ ':' := by
    rintro rfl
    cases digit
  simp only [List.forall_mem_cons] at digits
  obtain ⟨hourDigit, hoursDigit, minuteDigit, minutesDigit, secondDigit, secondsDigit, -⟩ := digits
  have taken : Emoji.takeCode? [':', minute, minutes, ':', second, seconds] =
      some ([minute, minutes], [second, seconds]) := by
    have colon : Emoji.isInside ':' = false := by decide
    simp [Emoji.takeCode?, (Emoji.of_isDigit minuteDigit).2.1, (Emoji.of_isDigit minutesDigit).2.1,
      colon]
  have rest : Emoji.replaceCodes [second, seconds] = [second, seconds] :=
    Emoji.replaceCodes_of_notMem
      (by simp [(noColon _ secondDigit).symm, (noColon _ secondsDigit).symm])
  rw [Emoji.replaceCodes_of_none (Emoji.takeCode?_of_ne (noColon _ hourDigit) _),
    Emoji.replaceCodes_of_none (Emoji.takeCode?_of_ne (noColon _ hoursDigit) _),
    Emoji.replaceCodes_of_some taken, Emoji.ofCode?_of_digits minuteDigit minutesDigit, rest]
  rfl

/-- A time of day is inert. -/
theorem isInert (time : IsTimeOfDay clock) : IsInert clock := by
  have absent (mark : Char) (marks : isMark mark = true) (other : mark ≠ ':') : mark ∉ clock := by
    intro member
    rcases time.isMark_or_colon mark member with plain | colon
    · cases plain.symm.trans marks
    · exact other colon
  have controls : ∀ c ∈ clock, c ≠ '\t' ∧ isDropped c = false := by
    intro c member
    refine ⟨fun tab => absent '\t' rfl (by decide) (tab ▸ member), ?_⟩
    rcases time.isMark_or_colon c member with plain | rfl
    · simp only [isMark, Bool.or_eq_false_iff] at plain
      exact plain.2
    · rfl
  have noBracket := absent '[' rfl (by decide)
  exact ⟨isLiteral_of_notMem noBracket time.replaceCodes_eq controls, noBracket,
    absent '\\' rfl (by decide)⟩

end IsTimeOfDay

end Markup

end CrossRef
