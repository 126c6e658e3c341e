/-!
Tables of code points in increasing order: character classes as intervals, and entries by key.
-/

namespace CrossRef.Text

/-- Each pair names the first and the last code point of one interval. -/
abbrev Intervals := List (Nat × Nat)

/-- The search ends at the first interval that reaches the code point. -/
def covers : Intervals → Nat → Bool
  | [], _ => false
  | (first, last) :: rest, point =>
    if point ≤ last then decide (first ≤ point) else covers rest point

/-- A covered code point lies in one of the intervals. -/
theorem exists_mem_of_covers {table : Intervals} {point : Nat} (covered : covers table point) :
    ∃ interval ∈ table, interval.1 ≤ point ∧ point ≤ interval.2 := by
  induction table with
  | nil => simp [covers] at covered
  | cons interval rest ih =>
    obtain ⟨first, last⟩ := interval
    by_cases reached : point ≤ last
    · simp only [covers, reached, if_true, decide_eq_true_eq] at covered
      exact ⟨(first, last), List.mem_cons_self, covered, reached⟩
    · simp only [covers, reached, if_false] at covered
      obtain ⟨found, member, bounds⟩ := ih covered
      exact ⟨found, List.mem_cons_of_mem _ member, bounds⟩

/-- The search ends at the first key that is not below the code point. -/
def find? {α : Type} : List (Nat × α) → Nat → Option α
  | [], _ => none
  | (key, value) :: rest, point =>
    if point < key then none else if point = key then some value else find? rest point

/-- An entry that is found stands in the table. -/
theorem mem_of_find? {α : Type} {table : List (Nat × α)} {point : Nat} {value : α}
    (found : find? table point = some value) : (point, value) ∈ table := by
  induction table with
  | nil => simp [find?] at found
  | cons head rest ih =>
    obtain ⟨key, stored⟩ := head
    rw [find?] at found
    split at found
    · cases found
    · split at found
      · next equal => subst equal; cases found; exact List.mem_cons_self
      · exact List.mem_cons_of_mem _ (ih found)

end CrossRef.Text
