import CrossRef.Proofs.Terminal.Thinning
import Mathlib.Data.List.Basic

/-!
Texts on a console. Lines that have room stay whole, and no line is wider than the console. A text
is laid out as it is exactly when all of its lines stay whole, also among other texts.
-/

namespace CrossRef

/-! Lines. -/

/-- A line holds no line end. -/
theorem notMem_of_mem_splitOn {text line : List Char} (member : line ∈ text.splitOn '\n') :
    '\n' ∉ line := by
  induction text generalizing line with
  | nil => simp_all [List.splitOn_nil]
  | cons c rest ih =>
      rw [List.splitOn_eq_splitOnP, List.splitOnP_cons_eq_if_modifyHead,
        ← List.splitOn_eq_splitOnP] at member
      obtain ⟨first, others, lines⟩ := List.exists_cons_of_ne_nil (List.splitOn_ne_nil '\n' rest)
      rw [lines] at ih member
      by_cases lineEnd : c = '\n'
      · simp only [lineEnd, beq_self_eq_true, if_true, List.mem_cons] at member
        rcases member with rfl | later
        · simp
        · exact ih (List.mem_cons.mpr later)
      · simp only [beq_iff_eq, lineEnd, if_false, List.modifyHead_cons, List.mem_cons] at member
        rcases member with rfl | later
        · simp [Ne.symm lineEnd, ih List.mem_cons_self]
        · exact ih (List.mem_cons_of_mem _ later)

/-- Texts that end their lines one after the other have the lines of each text, and an empty one. -/
theorem splitOn_flatMap_lineEnd (texts : List (List Char)) :
    (texts.flatMap (· ++ ['\n'])).splitOn '\n' = texts.flatMap (·.splitOn '\n') ++ [[]] := by
  induction texts with
  | nil => simp [List.splitOn_nil]
  | cons text rest ih =>
      rw [List.flatMap_cons, List.append_assoc, List.singleton_append,
        List.splitOn_append_cons_self, ih, List.flatMap_cons, List.append_assoc]

/-- Line ends between texts have no weight. -/
theorem weight_intercalate_lineEnd (texts : List (List Char)) :
    Markup.weight (['\n'].intercalate texts) = Markup.weight texts.flatten := by
  induction texts with
  | nil => rfl
  | cons text rest ih =>
      rcases rest with _ | ⟨next, later⟩
      · simp
      · have lineEnd : Markup.isMark '\n' = false := rfl
        rw [List.intercalate_cons_cons, List.flatten_cons]
        simp [ih, Markup.weight_cons, lineEnd]

namespace Console

/-- The styles that messages are printed in. -/
def messageStyles : List String := ["dim", "blue", "green", "red"]

/-- What messages rely on in a console. -/
structure IsReliable (console : Console) : Prop where
  /-- The styles of messages are known. -/
  known : ∀ name ∈ messageStyles, ∃ normal, console.styleName name.toList = .ok normal
  /-- A line is shown on at least one line. -/
  broken_ne_nil : ∀ line, console.broken line ≠ []
  /-- Only spaces are added to a line that is broken. -/
  added_spaces : ∀ line, ((console.broken line).flatten.filter (· ≠ ' ')).Sublist line
  /-- A line that has room stays whole. -/
  whole : ∀ line, '\n' ∉ line → console.columns line ≤ console.width →
    line.length ≤ console.width → console.broken line = [line]
  /-- No line is wider than the console. -/
  columns_le : ∀ line, ∀ part ∈ console.broken line, console.columns part ≤ console.width

variable {console : Console}

/-- Every line of a text stays whole. -/
def KeepsWhole (console : Console) (text : List Char) : Prop :=
  ∀ line ∈ text.splitOn '\n', console.broken line = [line]

/-- Every line of a text has room on the console, by its columns and by its characters. -/
def HasRoom (console : Console) (text : List Char) : Prop :=
  ∀ line ∈ text.splitOn '\n', console.columns line ≤ console.width ∧ line.length ≤ console.width

instance (text : List Char) : Decidable (console.KeepsWhole text) :=
  inferInstanceAs (Decidable (∀ line ∈ text.splitOn '\n', console.broken line = [line]))

instance (text : List Char) : Decidable (console.HasRoom text) :=
  inferInstanceAs (Decidable (∀ line ∈ text.splitOn '\n',
    console.columns line ≤ console.width ∧ line.length ≤ console.width))

/-- Texts whose lines stay whole are laid out as they are. -/
theorem KeepsWhole.laidOut_eq {text : List Char} (keeps : console.KeepsWhole text) :
    console.laidOut text = text := by
  have lines : (text.splitOn '\n').flatMap console.broken = text.splitOn '\n' := by
    rw [List.flatMap_congr keeps, List.flatMap_singleton']
  rw [laidOut, lines, List.intercalate_splitOn]

namespace IsReliable

variable (reliable : console.IsReliable)
include reliable

/-- Lines that have room stay whole. -/
theorem keepsWhole {text : List Char} (room : console.HasRoom text) : console.KeepsWhole text :=
  fun line member =>
    reliable.whole line (notMem_of_mem_splitOn member) (room line member).1 (room line member).2

/-- Lines that stay whole are not wider than the console. -/
theorem columns_le_of_keepsWhole {text : List Char} (keeps : console.KeepsWhole text) :
    ∀ line ∈ text.splitOn '\n', console.columns line ≤ console.width := by
  intro line member
  refine reliable.columns_le line line ?_
  rw [keeps line member]
  exact List.mem_singleton_self line

/-- A line that is broken is not heavier. -/
theorem weight_broken_le (line : List Char) :
    Markup.weight (console.broken line).flatten ≤ Markup.weight line := by
  have spaces : Markup.weight ((console.broken line).flatten.filter (· ≠ ' ')) =
      Markup.weight (console.broken line).flatten := by
    rw [Markup.weight, List.countP_filter, Markup.weight]
    refine List.countP_congr fun c _ => ?_
    by_cases space : c = ' '
    · simp [space, Markup.isMark, Markup.isDropped]
    · simp [space]
  rw [← spaces]
  exact (reliable.added_spaces line).countP_le

/-- A text that is laid out is not heavier. -/
theorem weight_laidOut_le (text : List Char) :
    Markup.weight (console.laidOut text) ≤ Markup.weight text := by
  have lines : ∀ lines : List (List Char),
      Markup.weight (lines.flatMap console.broken).flatten ≤ Markup.weight lines.flatten := by
    intro lines
    induction lines with
    | nil => exact Nat.le_refl _
    | cons line rest ih =>
        simp only [List.flatMap_cons, List.flatten_append, List.flatten_cons,
          Markup.weight_append]
        exact Nat.add_le_add (reliable.weight_broken_le line) ih
  calc Markup.weight (console.laidOut text)
      ≤ Markup.weight (text.splitOn '\n').flatten := by
        rw [laidOut, weight_intercalate_lineEnd]
        exact lines _
    _ = Markup.weight text := by
        rw [← weight_intercalate_lineEnd, List.intercalate_splitOn]

/-- The lines of a text that is laid out are the lines that its lines are broken into. -/
theorem splitOn_laidOut (text : List Char) :
    (console.laidOut text).splitOn '\n' = (text.splitOn '\n').flatMap console.broken := by
  refine List.splitOn_intercalate '\n' ?_ ?_
  · intro part member within
    obtain ⟨line, listed, inside⟩ := List.mem_flatMap.mp member
    have kept : '\n' ∈ (console.broken line).flatten.filter (· ≠ ' ') :=
      List.mem_filter.mpr ⟨List.mem_flatten.mpr ⟨part, inside, within⟩, by decide⟩
    exact notMem_of_mem_splitOn listed ((reliable.added_spaces line).subset kept)
  · obtain ⟨first, rest, lines⟩ := List.exists_cons_of_ne_nil (List.splitOn_ne_nil '\n' text)
    simp [lines, reliable.broken_ne_nil]

/-- Lines come back from being broken exactly when each of them stays whole. -/
theorem broken_eq_of_flatMap {lines : List (List Char)}
    (same : lines.flatMap console.broken = lines) :
    ∀ line ∈ lines, console.broken line = [line] := by
  have longer : ∀ lines : List (List Char),
      lines.length ≤ (lines.flatMap console.broken).length := by
    intro lines
    induction lines with
    | nil => exact Nat.le_refl _
    | cons line rest ih =>
        have some := List.length_pos_iff.mpr (reliable.broken_ne_nil line)
        simp only [List.flatMap_cons, List.length_append, List.length_cons]
        omega
  induction lines with
  | nil => simp
  | cons line rest ih =>
      obtain ⟨first, others, parts⟩ := List.exists_cons_of_ne_nil (reliable.broken_ne_nil line)
      rw [List.flatMap_cons, parts, List.cons_append, List.cons.injEq] at same
      obtain ⟨rfl, behind⟩ := same
      have none : others = [] := by
        have total := congrArg List.length behind
        have bound := longer rest
        rw [List.length_append] at total
        exact List.length_eq_zero_iff.mp (by omega)
      rw [none] at parts behind
      exact List.forall_mem_cons.mpr ⟨parts, ih behind⟩

/-- Texts are shown one after the other as they are only when all of their lines stay whole. -/
theorem keepsWhole_of_laidOut {texts : List (List Char)}
    (same : texts.flatMap (fun text => console.laidOut text ++ ['\n']) =
      texts.flatMap (· ++ ['\n'])) :
    ∀ text ∈ texts, console.KeepsWhole text := by
  have lines := congrArg (List.splitOn '\n') same
  rw [← List.flatMap_map (console.laidOut ·) (· ++ ['\n']), splitOn_flatMap_lineEnd,
    splitOn_flatMap_lineEnd, List.append_cancel_right_eq, List.flatMap_map,
    List.flatMap_congr fun text _ => reliable.splitOn_laidOut text,
    ← List.flatMap_assoc] at lines
  intro text member line listed
  exact reliable.broken_eq_of_flatMap lines line (List.mem_flatMap.mpr ⟨text, member, listed⟩)

end IsReliable

end Console

end CrossRef
