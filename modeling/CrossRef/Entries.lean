/-!
Named values in the order in which their names first appeared.
-/

namespace CrossRef

/-- Each name stands with its latest value. -/
abbrev Entries (α : Type) := List (String × α)

namespace Entries

variable {α : Type}

/-- The value of a name. -/
def get? (entries : Entries α) (name : String) : Option α :=
  entries.lookup name

/-- A new name is added at the end; a known name keeps its place and takes the value. -/
def set : Entries α → String → α → Entries α
  | [], name, value => [(name, value)]
  | (first, old) :: rest, name, value =>
    if first = name then (first, value) :: rest else (first, old) :: set rest name value

/-- The names in order. -/
def names (entries : Entries α) : List String :=
  entries.map Prod.fst

/-- Pairs are entered one after the other. -/
def ofList (pairs : List (String × α)) : Entries α :=
  pairs.foldl (fun entries pair => set entries pair.1 pair.2) []

/-- A name has the value that it was given last. -/
theorem get?_set (entries : Entries α) (name other : String) (value : α) :
    get? (set entries name value) other =
      if other = name then some value else get? entries other := by
  induction entries with
  | nil =>
    by_cases same : other = name
    · simp [set, get?, same]
    · simp [set, get?, List.lookup_cons, same, beq_eq_false_iff_ne.2 same]
  | cons head rest ih =>
    obtain ⟨first, old⟩ := head
    simp only [get?] at ih ⊢
    by_cases known : first = name
    · subst known
      by_cases same : other = first
      · simp [set, same]
      · simp [set, List.lookup_cons, same, beq_eq_false_iff_ne.2 same]
    · simp only [set, known, if_false, List.lookup_cons]
      by_cases here : other = first
      · subst here
        simp [known]
      · simp [beq_eq_false_iff_ne.2 here, ih]

/-- Setting a value keeps the known names in place and adds a new one at the end. -/
theorem names_set (entries : Entries α) (name : String) (value : α) :
    names (set entries name value) =
      if name ∈ names entries then names entries else names entries ++ [name] := by
  induction entries with
  | nil => simp [set, names]
  | cons head rest ih =>
    obtain ⟨first, old⟩ := head
    simp only [names] at ih ⊢
    by_cases known : first = name
    · simp [set, known]
    · simp only [set, known, if_false, List.map_cons, ih, List.mem_cons]
      have other : ¬name = first := fun equal => known equal.symm
      by_cases member : name ∈ rest.map Prod.fst <;> simp [member, other]

/-- A new name is entered at the end. -/
theorem set_of_notMem {entries : Entries α} {name : String} (new : name ∉ names entries)
    (value : α) : set entries name value = entries ++ [(name, value)] := by
  induction entries with
  | nil => rfl
  | cons head rest ih =>
    rw [names, List.map_cons, List.mem_cons, not_or] at new
    rw [set, if_neg (Ne.symm new.1), ih new.2, List.cons_append]

/-- Pairs with different names are entered as they are. -/
theorem ofList_of_nodup {pairs : List (String × α)} (distinct : (names pairs).Nodup) :
    ofList pairs = pairs := by
  -- The induction is on what is left to enter, behind what was entered.
  suffices entered : ∀ entries : Entries α, (names (entries ++ pairs)).Nodup →
      pairs.foldl (fun known pair => set known pair.1 pair.2) entries = entries ++ pairs from
    entered [] distinct
  clear distinct
  induction pairs with
  | nil => simp
  | cons pair rest ih =>
    intro entries distinct
    have new : pair.1 ∉ names entries := by
      simp only [names, List.map_append, List.map_cons, List.nodup_append] at distinct
      exact fun known => distinct.2.2 _ known _ List.mem_cons_self rfl
    rw [List.foldl_cons, set_of_notMem new, ih _ (by simpa using distinct), List.append_assoc,
      List.singleton_append]

end Entries

/-- Attributes are texts by name. -/
abbrev Attributes := Entries String

end CrossRef
