import BlockTree.Attributes.Basic
import Mathlib.Tactic

/-!
Attributes with defaults set in them.

* `Entries.eq_of_find?`: entries under different names are determined by the order of the names and
  by what is found under each.
* `Entries.names_insertAll` and `Entries.find?_insertAll`: entries that are set one after another
  leave the known names in their places and add the new ones in order; under each name the entry
  that was set is found, and otherwise what was there.
* `merge_ordered`: the laws of merging, each from these two, with the order of the names.
-/

namespace BlockTree

namespace Entries

variable {α : Type}

/-! ### Names and what is found under them -/

lemma find?_eq_none_iff {entries : Entries α} {name : Text} :
    entries.find? name = none ↔ name ∉ entries.names := by
  induction entries with
  | nil => exact iff_of_true rfl List.not_mem_nil
  | cons entry rest ih =>
      obtain ⟨key, value⟩ := entry
      rw [find?, names, List.map_cons, List.mem_cons, not_or]
      by_cases h : key = name
      · rw [if_pos h]
        exact iff_of_false (Option.some_ne_none _) fun hall => hall.1 h.symm
      · rw [if_neg h, ih]
        exact (and_iff_right (Ne.symm h)).symm

lemma nodup_names_cons {key : Text} {value : α} {rest : Entries α} :
    (names ((key, value) :: rest)).Nodup ↔ key ∉ names rest ∧ (names rest).Nodup :=
  List.nodup_cons

/-- **Entries under different names** are the same if they have the same names in the same order and
the same is found under each. -/
lemma eq_of_find? {entries others : Entries α} (hnodup : entries.names.Nodup)
    (hnames : entries.names = others.names)
    (hfind : ∀ name, entries.find? name = others.find? name) : entries = others := by
  induction entries generalizing others with
  | nil => exact (List.map_eq_nil_iff.mp hnames.symm).symm
  | cons entry rest ih =>
      cases others with
      | nil => cases hnames
      | cons other others =>
          obtain ⟨key, value⟩ := entry
          obtain ⟨otherKey, otherValue⟩ := other
          obtain ⟨rfl, hrest⟩ : key = otherKey ∧ names rest = names others := List.cons.inj hnames
          obtain ⟨hkey, hnodup⟩ := nodup_names_cons.mp hnodup
          have hvalue := hfind key
          rw [find?, find?, if_pos rfl, if_pos rfl, Option.some.injEq] at hvalue
          -- Behind the first entry its name is found in neither of the two.
          have hfindRest : ∀ name, find? name rest = find? name others := by
            intro name
            by_cases hname : key = name
            · subst hname
              rw [find?_eq_none_iff.mpr hkey, find?_eq_none_iff.mpr (hrest ▸ hkey)]
            · have hsame := hfind name
              rwa [find?, find?, if_neg hname, if_neg hname] at hsame
          rw [hvalue, ih hnodup hrest hfindRest]

/-! ### Entries set one after another -/

lemma insert_of_notMem {entries : Entries α} {name : Text} (h : name ∉ entries.names) (value : α) :
    entries.insert name value = entries ++ [(name, value)] := by
  induction entries with
  | nil => rfl
  | cons entry rest ih =>
      obtain ⟨key, old⟩ := entry
      obtain ⟨hkey, hrest⟩ := not_or.mp (mt List.mem_cons.mpr h)
      rw [insert, if_neg (Ne.symm hkey), ih hrest, List.cons_append]

/-- Entries under new names are put behind those that are there. -/
lemma insertAll_of_nodup {entries extra : Entries α} (h : (entries ++ extra).names.Nodup) :
    entries.insertAll extra = entries ++ extra := by
  induction extra generalizing entries with
  | nil => exact (List.append_nil _).symm
  | cons entry rest ih =>
      obtain ⟨key, value⟩ := entry
      have hkey : key ∉ entries.names := by
        rw [names, List.map_append, List.map_cons, List.nodup_middle, List.nodup_cons] at h
        exact fun hmem => h.1 (List.mem_append_left _ hmem)
      have hstep : entries.insertAll ((key, value) :: rest)
          = (entries ++ [(key, value)]).insertAll rest := by
        rw [← insert_of_notMem hkey]
        rfl
      rw [← List.singleton_append, ← List.append_assoc] at h
      rw [hstep, ih h, List.append_assoc, List.singleton_append]

section

variable {extra : Entries α} (h : extra.names.Nodup) (entries : Entries α)
include h

/-- The known names keep their places, and the new ones follow in order. -/
lemma names_insertAll :
    (entries.insertAll extra).names
      = entries.names ++ extra.names.filter (· ∉ entries.names) := by
  induction extra generalizing entries with
  | nil => exact (List.append_nil _).symm
  | cons entry rest ih =>
      obtain ⟨key, value⟩ := entry
      obtain ⟨hkey, hrest⟩ := nodup_names_cons.mp h
      have hstep : (entries.insertAll ((key, value) :: rest)).names
          = ((entries.insert key value).insertAll rest).names := rfl
      have hnames : names ((key, value) :: rest) = key :: names rest := rfl
      rw [hstep, ih hrest, names_insert, hnames]
      by_cases hmem : key ∈ entries.names
      · rw [if_pos hmem, List.filter_cons_of_neg (by simpa using hmem)]
      · have hother : ∀ name ∈ names rest,
            decide (name ∉ entries.names ++ [key]) = decide (name ∉ entries.names) := by
          intro name hname
          have hne : name ≠ key := fun heq => hkey (heq ▸ hname)
          simp [hne]
        rw [if_neg hmem, List.filter_cons_of_pos (by simpa using hmem), List.filter_congr hother,
          List.append_assoc, List.singleton_append]

/-- An entry that was set is found, and otherwise what was there. -/
lemma find?_insertAll (name : Text) :
    (entries.insertAll extra).find? name = (extra.find? name).or (entries.find? name) := by
  induction extra generalizing entries with
  | nil => rfl
  | cons entry rest ih =>
      obtain ⟨key, value⟩ := entry
      obtain ⟨hkey, hrest⟩ := nodup_names_cons.mp h
      have hstep : (entries.insertAll ((key, value) :: rest)).find? name
          = ((entries.insert key value).insertAll rest).find? name := rfl
      rw [hstep, ih hrest, find?_insert, find?]
      by_cases hname : name = key
      · -- Nothing that is set later has this name.
        have hnone : find? name rest = none := find?_eq_none_iff.mpr (hname ▸ hkey)
        rw [if_pos hname, if_pos hname.symm, hnone, Option.none_or, Option.some_or]
      · rw [if_neg hname, if_neg (Ne.symm hname)]

lemma nodup_names_insertAll {entries : Entries α} (hentries : entries.names.Nodup) :
    (entries.insertAll extra).names.Nodup := by
  rw [names_insertAll h]
  refine hentries.append (h.filter _) fun name hname hnew => ?_
  exact absurd hname (by simpa using (List.mem_filter.mp hnew).2)

end

end Entries

/-! ### Merging -/

namespace Attributes

open Entries

section

variable {a b c : Attributes}

lemma merge_nil_left (hb : b.names.Nodup) : merge [] b = b := by
  refine eq_of_find? (nodup_names_insertAll hb List.nodup_nil) ?_ fun name => ?_
  · rw [merge, names_insertAll hb]
    exact List.filter_eq_self.mpr fun name _ => by simp [names]
  · rw [merge, find?_insertAll hb]
    exact Option.or_none

/-- Defaults that are set again change nothing. -/
lemma merge_merge_self (ha : a.names.Nodup) (hb : b.names.Nodup) :
    merge (merge a b) b = merge a b := by
  have hab : (merge a b).names.Nodup := nodup_names_insertAll hb ha
  refine eq_of_find? (nodup_names_insertAll hb hab) ?_ fun name => ?_
  · have hknown : b.names.filter (· ∉ (merge a b).names) = [] := by
      refine List.filter_eq_nil_iff.mpr fun name hname => ?_
      rw [merge, names_insertAll hb]
      by_cases hmem : name ∈ a.names <;> simp [hname, hmem]
    rw [merge, names_insertAll hb, hknown, List.append_nil]
  · rw [merge, find?_insertAll hb, merge, find?_insertAll hb, ← Option.or_assoc, Option.or_self]

/-- Defaults of defaults are merged in either order. -/
lemma merge_assoc (ha : a.names.Nodup) (hb : b.names.Nodup) (hc : c.names.Nodup) :
    merge (merge a b) c = merge a (merge b c) := by
  have hab : (merge a b).names.Nodup := nodup_names_insertAll hb ha
  have hbc : (merge b c).names.Nodup := nodup_names_insertAll hc hb
  refine eq_of_find? (nodup_names_insertAll hc hab) ?_ fun name => ?_
  · -- Both ways the names new in `c` are those that are neither in `a` nor in `b`.
    have hnew : c.names.filter (· ∉ a.names ++ b.names.filter (· ∉ a.names))
        = (c.names.filter (· ∉ b.names)).filter (· ∉ a.names) := by
      rw [List.filter_filter]
      refine List.filter_congr fun name _ => ?_
      by_cases hmem : name ∈ a.names <;> simp [hmem]
    calc (merge (merge a b) c).names
        = (a.names ++ b.names.filter (· ∉ a.names))
            ++ c.names.filter (· ∉ a.names ++ b.names.filter (· ∉ a.names)) := by
          rw [merge, names_insertAll hc, merge, names_insertAll hb]
      _ = a.names ++ (b.names ++ c.names.filter (· ∉ b.names)).filter (· ∉ a.names) := by
          rw [hnew, List.filter_append, List.append_assoc]
      _ = (merge a (merge b c)).names := by
          rw [merge, names_insertAll hbc, merge, names_insertAll hc]
  · calc (merge (merge a b) c).find? name
        = (c.find? name).or ((b.find? name).or (a.find? name)) := by
          rw [merge, find?_insertAll hc, merge, find?_insertAll hb]
      _ = (merge a (merge b c)).find? name := by
          rw [merge, find?_insertAll hbc, merge, find?_insertAll hc, Option.or_assoc]

end

/-- **Merging ordered attributes.** It is associative, has the empty attributes on both sides as its
identity, for which a block without attributes stands too, and setting the same defaults again
changes nothing. The names are those of the attributes in their order and then the new ones of the
defaults in theirs, each once; a name of the defaults has the values of the defaults, and any other
name those of the attributes. -/
theorem merge_ordered {a b c : Attributes} (ha : a.names.Nodup) (hb : b.names.Nodup)
    (hc : c.names.Nodup) (reader : Reader) :
    merge (merge a b) c = merge a (merge b c)
    ∧ (merge a [] = a ∧ merge [] a = a ∧ Spec.absent.resolveWith reader a = .ok a)
    ∧ merge (merge a b) b = merge a b
    ∧ ((merge a b).names = a.names ++ b.names.filter (· ∉ a.names) ∧ (merge a b).names.Nodup)
    ∧ (∀ name ∈ b.names, (merge a b).find? name = b.find? name)
    ∧ ∀ name ∉ b.names, (merge a b).find? name = a.find? name := by
  refine ⟨merge_assoc ha hb hc, ⟨rfl, merge_nil_left ha, congrArg _ (merge_nil_left ha)⟩,
    merge_merge_self ha hb, ⟨names_insertAll hb a, nodup_names_insertAll hb ha⟩,
    fun name hname => ?_, fun name hname => ?_⟩
  · obtain ⟨values, hvalues⟩ := Option.ne_none_iff_exists'.mp
      (mt find?_eq_none_iff.mp (not_not_intro hname))
    rw [merge, find?_insertAll hb, hvalues, Option.some_or]
  · rw [merge, find?_insertAll hb, find?_eq_none_iff.mpr hname, Option.none_or]

/-- Three attributes of which each has a name of its own and shares one with each of the others. -/
theorem merge_ordered_overlapping :
    merge (merge [("id", ["x"]), ("class", ["a"]), ("p", [])] [("class", ["b", "c"]), ("k", ["1"])])
        [("z", []), ("k", ["2"]), ("id", ["y"])]
      = ([("id", ["y"]), ("class", ["b", "c"]), ("p", []), ("k", ["2"]), ("z", [])] : Attributes)
    ∧ merge [("id", ["x"]), ("class", ["a"]), ("p", [])]
        (merge [("class", ["b", "c"]), ("k", ["1"])] [("z", []), ("k", ["2"]), ("id", ["y"])])
      = ([("id", ["y"]), ("class", ["b", "c"]), ("p", []), ("k", ["2"]), ("z", [])]
        : Attributes) := by
  have hlaws := merge_ordered (a := [("id", ["x"]), ("class", ["a"]), ("p", [])])
    (b := [("class", ["b", "c"]), ("k", ["1"])]) (c := [("z", []), ("k", ["2"]), ("id", ["y"])])
    (by decide) (by decide) (by decide) readList
  have hresult : merge (merge [("id", ["x"]), ("class", ["a"]), ("p", [])]
      [("class", ["b", "c"]), ("k", ["1"])]) [("z", []), ("k", ["2"]), ("id", ["y"])]
      = ([("id", ["y"]), ("class", ["b", "c"]), ("p", []), ("k", ["2"]), ("z", [])]
        : Attributes) := by
    decide
  exact ⟨hresult, hlaws.1.symm.trans hresult⟩

end Attributes

end BlockTree
