import CrossRef.Json.Reader
import CrossRef.Json.Writer
import CrossRef.Proofs.Number.Digits

/-!
Numbers in JSON text: the text of every number, finite or not, is read as that number, whatever
stands behind it in an array or an object.
-/

namespace CrossRef.Json

open Numeral (Parts)

/-- What may stand behind a value: nothing, a comma, or the end of its line. -/
def EndsValue (rest : List Char) : Prop :=
  ∀ c ∈ rest.head?, c = ',' ∨ c = '\n'

/-- What ends a value is no digit and no other character of a number. -/
theorem EndsValue.not_numeric {rest : List Char} (ends : EndsValue rest) :
    ∀ c ∈ rest.head?, c.isDigit = false ∧ c ≠ '.' ∧ c ≠ 'e' ∧ c ≠ 'E' := by
  intro c member
  rcases ends c member with rfl | rfl <;> decide

/-! The parts of a number. -/

/-- Digits are taken up to the first other character. -/
theorem takeDigits_append {digits rest : List Char} (areDigits : ∀ c ∈ digits, c.isDigit = true)
    (stops : ∀ c ∈ rest.head?, c.isDigit = false) :
    (digits ++ rest).takeWhile Char.isDigit = digits ∧
      (digits ++ rest).dropWhile Char.isDigit = rest := by
  rw [List.takeWhile_append_of_pos areDigits, List.dropWhile_append_of_pos areDigits]
  cases rest with
  | nil => simp
  | cons c rest =>
      have other : c.isDigit = false := stops c rfl
      simp [other]

/-- The whole part of a numeral is taken. -/
theorem takeWhole_append {whole rest : List Char} (areDigits : ∀ c ∈ whole, c.isDigit = true)
    (leading : whole = ['0'] ∨ ∃ first later, whole = first :: later ∧ first ≠ '0')
    (stops : ∀ c ∈ rest.head?, c.isDigit = false) : takeWhole (whole ++ rest) = (whole, rest) := by
  rcases leading with rfl | ⟨first, later, rfl, nonzero⟩
  · rfl
  · obtain ⟨taken, left⟩ := takeDigits_append areDigits stops
    rw [List.cons_append, takeWhole, ← List.cons_append, taken, left]
    rintro tail equal
    exact nonzero (List.cons.inj equal).1

/-- The places behind a point are taken. -/
theorem takeFraction_append {places rest : List Char} (areDigits : ∀ c ∈ places, c.isDigit = true)
    (stops : ∀ c ∈ rest.head?, c.isDigit = false ∧ c ≠ '.') :
    takeFraction ((if places = [] then [] else '.' :: places) ++ rest) = (places, rest) := by
  cases places with
  | nil =>
      rw [if_pos rfl, List.nil_append, takeFraction]
      rintro digit tail rfl
      exact (stops '.' rfl).2 rfl
  | cons digit places =>
      obtain ⟨isDigit, others⟩ := List.forall_mem_cons.mp areDigits
      obtain ⟨taken, left⟩ := takeDigits_append others fun c member => (stops c member).1
      rw [if_neg (by simp), List.cons_append, List.cons_append, takeFraction, if_pos isDigit,
        taken, left]

/-- The exponent is taken. -/
theorem takeExponent_append (exponent : Int) {rest : List Char}
    (stops : ∀ c ∈ rest.head?, c.isDigit = false) :
    takeExponent (Binary64.exponentText exponent ++ rest) = (some exponent, rest) := by
  obtain ⟨digits, padded, areDigits, value⟩ : ∃ digits : List Char,
      Binary64.zeros (2 - (Nat.toDigits 10 exponent.natAbs).length) ++
        Nat.toDigits 10 exponent.natAbs = digits ∧ (∀ c ∈ digits, c.isDigit = true) ∧
        Numeral.digitsValue digits = exponent.natAbs := by
    refine ⟨_, rfl, fun c member => ?_, ?_⟩
    · exact (List.mem_append.mp member).elim Numeral.isDigit_of_mem_zeros
        Numeral.isDigit_of_mem_toDigits
    · rw [Numeral.digitsValue_zeros_append, Numeral.digitsValue_toDigits]
  obtain ⟨taken, left⟩ := takeDigits_append areDigits stops
  have filled : digits.isEmpty = false := by
    rw [← padded, List.isEmpty_eq_false_iff]
    simp
  have text : Binary64.exponentText exponent =
      'e' :: (if exponent < 0 then '-' else '+') :: digits := by
    rw [Binary64.exponentText, padded]
  have sign : Numeral.takeSign ((if exponent < 0 then '-' else '+') :: (digits ++ rest)) =
      (decide (exponent < 0), digits ++ rest) := by
    split <;> simp [Numeral.takeSign, *]
  rw [text, List.cons_append, List.cons_append, takeExponent, if_pos (Or.inl rfl), sign]
  simp only [taken, left, filled, value, decide_eq_true_eq]
  rw [if_neg (by simp)]
  congr 2
  omega

/-- Without an exponent none is taken. -/
theorem takeExponent_of_ends {rest : List Char} (ends : EndsValue rest) :
    takeExponent rest = (none, rest) := by
  cases rest with
  | nil => rfl
  | cons c rest =>
      obtain ⟨-, -, notLower, notUpper⟩ := ends.not_numeric c rfl
      rw [takeExponent]
      simp [notLower, notUpper]

/-- A number is read by its parts, each in front of what stands behind it. -/
theorem readNumber_of_parts (negative : Bool) {text tail whole places : List Char}
    {afterWhole afterPlaces rest : List Char} {exponent : Option Int}
    (starts : ∃ first later, text = first :: later ∧ first.isDigit = true)
    (takesWhole : takeWhole (text ++ tail) = (whole, afterWhole)) (filled : whole ≠ [])
    (takesFraction : takeFraction afterWhole = (places, afterPlaces))
    (takesExponent : takeExponent afterPlaces = (exponent, rest)) :
    readNumber (Binary64.signed negative text ++ tail) =
      if places.isEmpty && exponent.isNone then
        if digitLimit < whole.length then .error (.tooManyDigits whole.length)
        else
          let value : Int := Numeral.digitsValue whole
          .ok (.integer (if negative then -value else value), rest)
      else
        .ok (.number (.ofDecimal negative (Numeral.digitsValue (whole ++ places))
          (exponent.getD 0 - places.length)), rest) := by
  have present : whole.isEmpty = false := List.isEmpty_eq_false_iff.mpr filled
  cases negative with
  | true =>
      rw [Binary64.signed, if_pos rfl, List.cons_append, readNumber]
      simp only [takesWhole, takesFraction, takesExponent, present]
      rfl
  | false =>
      rw [Binary64.signed, if_neg (by simp), readNumber]
      · simp only [takesWhole, takesFraction, takesExponent, present]
        rfl
      · obtain ⟨first, later, rfl, isDigit⟩ := starts
        intro rest equal
        obtain rfl : first = '-' := (List.cons.inj equal).1
        cases isDigit

/-! Numerals. -/

/-- A proper numeral starts with a digit. -/
theorem exists_text_eq_cons {parts : Parts} (proper : parts.IsProper) :
    ∃ first rest, parts.text = first :: rest ∧ first.isDigit = true := by
  obtain ⟨first, rest, whole⟩ : ∃ first rest, parts.whole = first :: rest := by
    rcases proper.leading with whole | ⟨first, rest, whole, -⟩
    · exact ⟨'0', [], whole⟩
    · exact ⟨first, rest, whole⟩
  have isDigit : first.isDigit = true := proper.whole_digits first (by simp [whole])
  rw [Parts.text, whole, List.append_assoc, List.cons_append]
  exact ⟨first, _, rfl, isDigit⟩

/-- A proper numeral with a sign is read as the number nearest to its decimal. -/
theorem readNumber_signed {parts : Parts} (proper : parts.IsProper) (negative : Bool)
    {rest : List Char} (ends : EndsValue rest) :
    readNumber (Binary64.signed negative parts.text ++ rest) =
      .ok (.number (.ofDecimal negative parts.value.digits parts.value.exponent), rest) := by
  -- Every part is read in front of what stands behind it, so the rests are named from the back.
  obtain ⟨afterPlaces, behindPlaces⟩ : ∃ afterPlaces,
      (parts.exponent.map Binary64.exponentText).getD [] ++ rest = afterPlaces := ⟨_, rfl⟩
  obtain ⟨exponent, stops⟩ : takeExponent afterPlaces = (parts.exponent, rest) ∧
      ∀ c ∈ afterPlaces.head?, c.isDigit = false ∧ c ≠ '.' := by
    subst behindPlaces
    cases parts.exponent with
    | none =>
        exact ⟨takeExponent_of_ends ends, fun c member =>
          ⟨(ends.not_numeric c member).1, (ends.not_numeric c member).2.1⟩⟩
    | some exponent =>
        refine ⟨takeExponent_append exponent fun c member => (ends.not_numeric c member).1, ?_⟩
        intro c member
        obtain rfl : 'e' = c := Option.some.inj member
        decide
  obtain ⟨afterWhole, behindWhole⟩ : ∃ afterWhole,
      (if parts.places = [] then [] else '.' :: parts.places) ++ afterPlaces = afterWhole :=
    ⟨_, rfl⟩
  have fraction : takeFraction afterWhole = (parts.places, afterPlaces) := by
    rw [← behindWhole]
    exact takeFraction_append proper.places_digits stops
  have whole : takeWhole (parts.text ++ rest) = (parts.whole, afterWhole) := by
    rw [Parts.text, List.append_assoc, List.append_assoc, behindPlaces, behindWhole]
    refine takeWhole_append proper.whole_digits proper.leading fun c member => ?_
    rw [← behindWhole] at member
    split at member
    · exact (stops c member).1
    · obtain rfl : '.' = c := Option.some.inj member
      rfl
  have filled : parts.whole ≠ [] := by
    rcases proper.leading with zero | ⟨_, _, digits, -⟩
    · simp [zero]
    · simp [digits]
  have isBinary : (parts.places.isEmpty && parts.exponent.isNone) = false := by
    rcases proper.isBinary with places | exponent
    · simp [places]
    · simp [Option.isNone_eq_false_iff, Option.isSome_iff_ne_none, exponent]
  rw [readNumber_of_parts negative (exists_text_eq_cons proper) whole filled fraction exponent,
    isBinary]
  rfl

/-! Whole numbers. -/

/-- The digits of a number start with its only zero, or not with zero. -/
theorem toDigits_leading (number : Nat) :
    Nat.toDigits 10 number = ['0'] ∨
      ∃ first rest, Nat.toDigits 10 number = first :: rest ∧ first ≠ '0' := by
  rcases Nat.eq_zero_or_pos number with rfl | positive
  · exact Or.inl rfl
  · exact Or.inr (Numeral.exists_toDigits_eq_cons positive)

/-- The digits of a number start with a digit. -/
theorem exists_toDigits_eq_digit (number : Nat) :
    ∃ first later, Nat.toDigits 10 number = first :: later ∧ first.isDigit = true := by
  obtain ⟨first, later, digits⟩ := List.exists_cons_of_ne_nil
    (Nat.toDigits_ne_nil : Nat.toDigits 10 number ≠ [])
  exact ⟨first, later, digits, Numeral.isDigit_of_mem_toDigits (digits ▸ List.mem_cons_self)⟩

/-- A whole number that is not too long is read. -/
theorem readNumber_integer {value : Int}
    (short : (Nat.toDigits 10 value.natAbs).length ≤ digitLimit) {rest : List Char}
    (ends : EndsValue rest) :
    readNumber ((toString value).toList ++ rest) = .ok (.integer value, rest) := by
  have stops : ∀ c ∈ rest.head?, c.isDigit = false ∧ c ≠ '.' := fun c member =>
    ⟨(ends.not_numeric c member).1, (ends.not_numeric c member).2.1⟩
  have whole : takeWhole (Nat.toDigits 10 value.natAbs ++ rest) =
      (Nat.toDigits 10 value.natAbs, rest) :=
    takeWhole_append (fun _ => Numeral.isDigit_of_mem_toDigits) (toDigits_leading _)
      fun c member => (stops c member).1
  have fraction : takeFraction rest = ([], rest) :=
    takeFraction_append (List.forall_mem_nil _) stops
  have amount : (if decide (value < 0) = true then -(value.natAbs : Int) else value.natAbs) =
      value := by
    by_cases below : value < 0
    · rw [decide_eq_true below, if_pos rfl]
      omega
    · rw [decide_eq_false below, if_neg Bool.false_ne_true]
      omega
  rw [Numeral.toString_integer, readNumber_of_parts _ (exists_toDigits_eq_digit _) whole
    Nat.toDigits_ne_nil fraction (takeExponent_of_ends ends)]
  simp only [Numeral.digitsValue_toDigits, if_neg (Nat.not_lt.mpr short), amount]
  rfl

/-! Values. -/

/-- No word starts with a digit, with or without a sign. -/
theorem takeKeyword?_signed (negative : Bool) {first : Char} (isDigit : first.isDigit = true)
    (rest : List Char) : takeKeyword? (Binary64.signed negative (first :: rest)) = none := by
  have letters : first ≠ 'n' ∧ first ≠ 't' ∧ first ≠ 'f' ∧ first ≠ 'N' ∧ first ≠ 'I' ∧
      first ≠ '-' := by
    refine ⟨?_, ?_, ?_, ?_, ?_, ?_⟩
    all_goals
      rintro rfl
      cases isDigit
  cases negative <;> simp [takeKeyword?, keywords, Binary64.signed, letters, Ne.symm]

/-- Digits, with or without a sign, start a number. -/
theorem readValue_signed (bound : Nat) (negative : Bool) {text : List Char}
    (starts : ∃ first later, text = first :: later ∧ first.isDigit = true) (rest : List Char) :
    readValue (bound + 1) (Binary64.signed negative text ++ rest) =
      readNumber (Binary64.signed negative text ++ rest) := by
  obtain ⟨first, later, rfl, isDigit⟩ := starts
  have noWord := takeKeyword?_signed negative isDigit (later ++ rest)
  have others : first ≠ '"' ∧ first ≠ '[' ∧ first ≠ '\x7b' := by
    refine ⟨?_, ?_, ?_⟩
    all_goals
      rintro rfl
      cases isDigit
  cases negative with
  | true =>
      simp only [Binary64.signed, if_true, List.cons_append] at noWord ⊢
      rw [readValue, noWord] <;> simp
  | false =>
      simp only [Binary64.signed, Bool.false_eq_true, if_false, List.cons_append] at noWord ⊢
      rw [readValue, noWord] <;> simp [others]

/-- The text of a whole number that is not too long is read as the number. -/
theorem readValue_integer {value : Int}
    (short : (Nat.toDigits 10 value.natAbs).length ≤ digitLimit) (bound : Nat) {rest : List Char}
    (ends : EndsValue rest) :
    readValue (bound + 1) ((toString value).toList ++ rest) = .ok (.integer value, rest) := by
  have read := readNumber_integer short ends
  rw [Numeral.toString_integer] at read ⊢
  rw [readValue_signed bound _ (exists_toDigits_eq_digit _), read]

/-- The text of a number is read as the number. -/
theorem readValue_number (value : Binary64) (bound : Nat) {rest : List Char}
    (ends : EndsValue rest) :
    readValue (bound + 1) ((value.textIn notation64).toList ++ rest) =
      .ok (.number value, rest) := by
  have numeral {parts : Parts} (proper : parts.IsProper) (negative : Bool) :
      readValue (bound + 1) (Binary64.signed negative parts.text ++ rest) =
        .ok (.number (.ofDecimal negative parts.value.digits parts.value.exponent), rest) := by
    rw [readValue_signed bound negative (exists_text_eq_cons proper),
      readNumber_signed proper _ ends]
  cases value with
  | nan => rfl
  | infinite negative => cases negative <;> rfl
  | finite negative magnitude representable =>
      rw [Binary64.textIn, String.toList_ofList]
      split
      · next zero =>
          subst zero
          have proper : Parts.IsProper ⟨['0'], ['0'], none⟩ :=
            ⟨by simp, by simp, Or.inl rfl, Or.inl (by simp)⟩
          have read := numeral proper negative
          have digits : (Parts.value ⟨['0'], ['0'], none⟩).digits = 0 := rfl
          have text : Parts.text ⟨['0'], ['0'], none⟩ = ['0', '.', '0'] := rfl
          rw [digits, text, Binary64.ofDecimal, if_pos rfl,
            Binary64.zero_eq_finite representable] at read
          exact read
      · next nonzero =>
          have positive := Nat.pos_of_ne_zero nonzero
          have reads := Binary64.readsAs_shortest positive
          obtain ⟨parts, places, text, proper, same⟩ := Binary64.exists_parts_decimalText
            (rfl : notation64.pointBeforeExponent = false)
            (Binary64.digits_pos_of_readsAs positive reads)
          -- The text may end in zeros that the shortest decimal does not have.
          have shifted : parts.value.ReadsAs magnitude :=
            same ▸ Binary64.readsAs_shift reads places
          have value : Binary64.ofDecimal negative parts.value.digits parts.value.exponent =
              .finite negative magnitude representable :=
            Binary64.ofDecimal_of_readsAs representable positive shifted negative
          rw [text, numeral proper, value]

end CrossRef.Json
