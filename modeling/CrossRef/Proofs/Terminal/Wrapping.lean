import CrossRef.Proofs.Terminal.Layout
import CrossRef.Terminal.Wrapping
import Mathlib.Data.List.DropRight
import Mathlib.Data.List.SplitBy

/-!
A console that breaks lines between words is reliable: the parts of a line make up the line, and
what is cut off a part is made good with spaces only.
-/

namespace CrossRef

namespace Wrapping

/-! Widths. -/

@[simp] theorem columns_nil : columns [] = 0 := rfl

@[simp] theorem columns_append (first second : List Char) :
    columns (first ++ second) = columns first + columns second := by
  induction first with
  | nil => simp
  | cons c rest ih => simp [columns, ih, Nat.add_assoc]

@[simp] theorem columns_spaces (count : Nat) : columns (List.replicate count ' ') = count := by
  have space : Markup.cells ' ' = 1 := by decide
  induction count with
  | zero => rfl
  | succ count ih => simp [List.replicate_succ, columns, space, ih, Nat.add_comm]

theorem isPrefix_withoutTail (text : List Char) : withoutTail text <+: text :=
  List.rdropWhile_prefix _ text

theorem columns_withoutTail_le (text : List Char) : columns (withoutTail text) ≤ columns text := by
  obtain ⟨tail, whole⟩ := isPrefix_withoutTail text
  have parts := congrArg columns whole
  rw [columns_append] at parts
  omega

/-! Parts of a line. -/

/-- The words of a line make up the line. -/
theorem flatten_wordsOf (line : List Char) : (wordsOf line).flatten = line := by
  rw [wordsOf]
  split
  · next first second rest found =>
      have whole := congrArg List.flatten found
      rw [List.flatten_splitBy] at whole
      split
      · simpa using whole.symm
      · exact whole.symm
  · exact List.flatten_splitBy _ line

theorem flatten_chop (width : Nat) (start text : List Char) :
    (chop width start text).flatten = start ++ text := by
  induction text generalizing start with
  | nil => simp [chop]
  | cons c rest ih => by_cases room : columns start + Markup.cells c ≤ width <;> simp [chop, room, ih]

/-- Pieces that are empty are of no account. -/
theorem flatten_dropWhile_isEmpty (pieces : List (List Char)) :
    (pieces.dropWhile List.isEmpty).flatten = pieces.flatten := by
  induction pieces with
  | nil => rfl
  | cons piece rest ih => cases piece <;> simp [ih]

/-- The last piece and those before it make up a text. -/
theorem flatten_dropLast_append (pieces : List (List Char)) :
    pieces.dropLast.flatten ++ pieces.getLast?.getD [] = pieces.flatten := by
  rcases pieces.eq_nil_or_concat with rfl | ⟨before, last, rfl⟩ <;> simp

/-- The parts of a line make up its start and its words. -/
theorem flatten_fill (width : Nat) (start : List Char) (words : List (List Char)) :
    (fill width start words).flatten = start ++ words.flatten := by
  induction words generalizing start with
  | nil => simp [fill]
  | cons word rest ih =>
      rw [fill]
      split
      · simp [ih]
      · split
        · rw [List.flatten_append, ih, ← List.append_assoc, flatten_dropLast_append,
            flatten_dropWhile_isEmpty]
          simp [flatten_chop]
        · simp [ih]

theorem fill_ne_nil (width : Nat) (start : List Char) (words : List (List Char)) :
    fill width start words ≠ [] := by
  induction words generalizing start with
  | nil => simp [fill]
  | cons word rest ih =>
      rw [fill]
      split
      · exact ih _
      · split <;> simp [ih]

/-- Words that fit together stay on one line. -/
theorem fill_of_columns_le {width : Nat} {start : List Char} {words : List (List Char)}
    (room : columns (start ++ words.flatten) ≤ width) :
    fill width start words = [start ++ words.flatten] := by
  induction words generalizing start with
  | nil => simp [fill]
  | cons word rest ih =>
      rw [List.flatten_cons, ← List.append_assoc] at room ⊢
      have visible := columns_withoutTail_le word
      have together := room
      simp only [columns_append] at together
      rw [fill, if_pos (by omega), ih room]

/-! Cuts. -/

theorem isPrefix_trimmed (width : Nat) (line : List Char) : trimmed width line <+: line :=
  List.take_prefix _ line

theorem trimmed_of_length_le {width : Nat} {line : List Char} (short : line.length ≤ width) :
    trimmed width line = line :=
  List.take_of_length_le (short.trans (Nat.le_max_right _ _))

theorem isPrefix_fitting (room : Nat) (text : List Char) : fitting room text <+: text := by
  fun_induction fitting room text with
  | case1 => exact List.prefix_rfl
  | case2 room c rest fits ih => exact (List.cons_prefix_cons).mpr ⟨rfl, ih⟩
  | case3 => exact List.nil_prefix

theorem columns_fitting_le (room : Nat) (text : List Char) : columns (fitting room text) ≤ room := by
  fun_induction fitting room text with
  | case1 => exact Nat.zero_le _
  | case2 room c rest fits ih =>
      rw [columns]
      omega
  | case3 => exact Nat.zero_le _

/-- A line that is cropped fits. -/
theorem columns_cropped_le (width : Nat) (line : List Char) :
    columns (cropped width line) ≤ width := by
  rw [cropped]
  split
  · assumption
  · have bound := columns_fitting_le width line
    rw [columns_append, columns_spaces]
    omega

/-- Cropping adds spaces only. -/
theorem filter_cropped_sublist (width : Nat) (line : List Char) :
    ((cropped width line).filter (· ≠ ' ')).Sublist line := by
  rw [cropped]
  split
  · exact List.filter_sublist
  · have spaces (count : Nat) : (List.replicate count ' ').filter (· ≠ ' ') = [] := by simp
    rw [List.filter_append, spaces, List.append_nil]
    exact List.filter_sublist.trans (isPrefix_fitting width line).sublist

/-- What is left of parts are parts of what they make up. -/
theorem filter_flatten_map_sublist {cut : List Char → List Char}
    (spaces : ∀ part, ((cut part).filter (· ≠ ' ')).Sublist part) (parts : List (List Char)) :
    ((parts.map cut).flatten.filter (· ≠ ' ')).Sublist parts.flatten := by
  induction parts with
  | nil => exact List.Sublist.slnil
  | cons part rest ih =>
      rw [List.map_cons, List.flatten_cons, List.filter_append, List.flatten_cons]
      exact (spaces part).append ih

/-! Lines. -/

/-- A line that is broken is made up of what is left of its parts, but for spaces. -/
theorem filter_broken_sublist (width : Nat) (line : List Char) :
    ((broken width line).flatten.filter (· ≠ ' ')).Sublist line := by
  have parts : (fill width [] (wordsOf line)).flatten = line := by
    rw [flatten_fill, flatten_wordsOf, List.nil_append]
  have kept := filter_flatten_map_sublist
    (fun part => (filter_cropped_sublist width (trimmed width part)).trans
      (isPrefix_trimmed width part).sublist) (fill width [] (wordsOf line))
  rwa [parts] at kept

/-- A line that has room is not broken. -/
theorem broken_of_columns_le {width : Nat} {line : List Char} (narrow : columns line ≤ width)
    (short : line.length ≤ width) : broken width line = [line] := by
  have room : columns ([] ++ (wordsOf line).flatten) ≤ width := by
    rwa [flatten_wordsOf, List.nil_append]
  rw [broken, fill_of_columns_le room, flatten_wordsOf, List.nil_append, List.map_singleton,
    trimmed_of_length_le short, cropped, if_pos narrow]

end Wrapping

/-- A console of a width is reliable. -/
theorem Console.isReliable_ofWidth (width : Nat) : (Console.ofWidth width).IsReliable where
  known _ _ := ⟨_, rfl⟩
  broken_ne_nil _ empty := Wrapping.fill_ne_nil _ _ _ (List.map_eq_nil_iff.mp empty)
  added_spaces := Wrapping.filter_broken_sublist width
  whole _ _ := Wrapping.broken_of_columns_le
  columns_le line part member := by
    obtain ⟨piece, -, rfl⟩ := List.mem_map.mp member
    exact Wrapping.columns_cropped_le width _

end CrossRef
