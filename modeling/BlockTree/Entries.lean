import BlockTree.Text.Basic

/-!
Named entries in the order of their first mention.

* `Entries.insert`: a known name keeps its place and takes the new value, a new name goes last;
* `Entries.append`: adds to the list of values of a name;
* `Entries.ofList`: the entries of a list of pairs, a later pair replacing the value of an earlier
  one.

`find?_insert`, `names_insert` and `mem_insert` say what an insertion changes, `append_of_notMem`
where a new name goes, and `find?_append_cons_of_ne` that other names do not matter.
-/

namespace BlockTree

/-- Values under names, in order of first mention. -/
abbrev Entries (α : Type) := List (Text × α)

namespace Entries

variable {α : Type}

/-- The names in order. -/
def names (entries : Entries α) : List Text :=
  entries.map Prod.fst

/-- The value of the first entry with a name. -/
def find? (name : Text) : Entries α → Option α
  | [] => none
  | (key, value) :: rest => if key = name then some value else find? name rest

/-- Sets the value of a name. -/
def insert (name : Text) (value : α) : Entries α → Entries α
  | [] => [(name, value)]
  | (key, old) :: rest =>
    if key = name then (key, value) :: rest else (key, old) :: insert name value rest

/-- Adds a value after the values that a name has. -/
def append (name : Text) (value : α) : Entries (List α) → Entries (List α)
  | [] => [(name, [value])]
  | (key, values) :: rest =>
    if key = name then (key, values ++ [value]) :: rest else (key, values) :: append name value rest

/-- Sets the entries of the second argument one after another in the first. -/
def insertAll (entries extra : Entries α) : Entries α :=
  extra.foldl (fun acc entry => acc.insert entry.1 entry.2) entries

/-- The entries of a list of pairs. -/
def ofList (pairs : List (Text × α)) : Entries α :=
  insertAll [] pairs

/-! ### Laws -/

theorem find?_insert (entries : Entries α) (name key : Text) (value : α) :
    (entries.insert name value).find? key
      = if key = name then some value else entries.find? key := by
  induction entries with
  | nil => simp [insert, find?, eq_comm]
  | cons entry rest ih => grind [insert, find?]

/-- An entry of another name does not change the value of a name, wherever it stands. -/
theorem find?_append_cons_of_ne (front back : Entries α) {name key : Text} (h : key ≠ name)
    (value : α) : find? name (front ++ (key, value) :: back) = find? name (front ++ back) := by
  induction front with
  | nil => rw [List.nil_append, find?, if_neg h, List.nil_append]
  | cons entry rest ih => rw [List.cons_append, List.cons_append, find?, find?, ih]

theorem names_insert (entries : Entries α) (name : Text) (value : α) :
    (entries.insert name value).names
      = if name ∈ entries.names then entries.names else entries.names ++ [name] := by
  induction entries with
  | nil => simp [insert, names]
  | cons entry rest ih => grind [insert, names]

theorem mem_insert {entries : Entries α} {name : Text} {value : α} {entry : Text × α}
    (h : entry ∈ entries.insert name value) : entry = (name, value) ∨ entry ∈ entries := by
  induction entries with
  | nil => exact Or.inl (List.mem_singleton.1 h)
  | cons first rest ih => grind [insert]

theorem append_of_notMem {entries : Entries (List α)} {name : Text} (h : name ∉ entries.names)
    (value : α) : entries.append name value = entries ++ [(name, [value])] := by
  induction entries with
  | nil => rfl
  | cons entry rest ih =>
    obtain ⟨key, values⟩ := entry
    rw [names, List.map_cons, List.mem_cons, not_or] at h
    rw [append, if_neg (Ne.symm h.1), ih h.2, List.cons_append]

end Entries

end BlockTree
