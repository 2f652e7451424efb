import BlockTree.Json.Writer
import BlockTree.Proofs.MergedAttributes
import Mathlib.Tactic

/-!
Structured data up to the order of its members.

* `Json.mergeSort_eq_of_perm`: the order of names is total, so that sorting entries by their names
  has one result for all orders of them.
* `Data.IsIntegral`: data whose numbers are integers; the names of a mapping are texts, and each
  stands there once.
* `Data.Alike`: data that differs at most in the order of the members, at any depth.
* `Data.sorted`: the data with the members of every mapping in the order of their names.
  `sorted_eq_sorted_iff`: alike data is the same when sorted, and other data is not; `sorted_alike`:
  sorting leaves the data alike.
-/

namespace BlockTree

/-! ### The order of names -/

namespace Json

variable {text other third : Text}

/-- The order of two names is the order of their first characters, or of what follows equal ones. -/
lemma notAfter_cons {c d : Char} :
    notAfter (c :: text) (d :: other) = true
      ↔ c.toNat < d.toNat ∨ c = d ∧ notAfter text other = true := by
  rw [notAfter]
  by_cases h : c = d
  · simp [h]
  · simp [h]

lemma notAfter_trans (h : notAfter text other = true) (h' : notAfter other third = true) :
    notAfter text third = true := by
  induction text generalizing other third with
  | nil => rw [notAfter]
  | cons c text ih =>
      cases other with
      | nil => simp [notAfter] at h
      | cons d other =>
          cases third with
          | nil => simp [notAfter] at h'
          | cons e third =>
              rw [notAfter_cons] at h h' ⊢
              rcases h with h | ⟨rfl, h⟩
              · rcases h' with h' | ⟨rfl, -⟩
                · exact Or.inl (Nat.lt_trans h h')
                · exact Or.inl h
              · exact h'.imp id fun hrest => ⟨hrest.1, ih h hrest.2⟩

lemma notAfter_total (text other : Text) :
    notAfter text other = true ∨ notAfter other text = true := by
  induction text generalizing other with
  | nil => exact Or.inl (by rw [notAfter])
  | cons c text ih =>
      cases other with
      | nil => exact Or.inr (by rw [notAfter])
      | cons d other =>
          rw [notAfter_cons, notAfter_cons]
          rcases Nat.lt_trichotomy c.toNat d.toNat with hlt | heq | hgt
          · exact Or.inl (Or.inl hlt)
          · obtain rfl := Char.toNat_inj.mp heq
            exact (ih other).imp (fun h => Or.inr ⟨rfl, h⟩) fun h => Or.inr ⟨rfl, h⟩
          · exact Or.inr (Or.inl hgt)

lemma notAfter_antisymm (h : notAfter text other = true) (h' : notAfter other text = true) :
    text = other := by
  induction text generalizing other with
  | nil =>
      cases other with
      | nil => rfl
      | cons d other => simp [notAfter] at h'
  | cons c text ih =>
      cases other with
      | nil => simp [notAfter] at h
      | cons d other =>
          rw [notAfter_cons] at h h'
          rcases h with hlt | ⟨rfl, h⟩
          · rcases h' with hgt | ⟨rfl, -⟩
            · exact absurd hlt (Nat.lt_asymm hgt)
            · exact absurd hlt (Nat.lt_irrefl _)
          · rcases h' with hlt | ⟨-, h'⟩
            · exact absurd hlt (Nat.lt_irrefl _)
            · rw [ih h h']

section

variable {α β : Type}

lemma nameOrder_trans (a b c : Text × α) (hab : nameOrder a b = true) (hbc : nameOrder b c = true) :
    nameOrder a c = true :=
  notAfter_trans hab hbc

lemma nameOrder_total (a b : Text × α) : (nameOrder a b || nameOrder b a) = true := by
  rw [Bool.or_eq_true]
  exact notAfter_total a.1 b.1

/-- **Sorting by names** has one result for all orders of entries under different names. -/
lemma mergeSort_eq_of_perm {entries others : Entries α} (hnodup : entries.names.Nodup)
    (hperm : entries.Perm others) : entries.mergeSort nameOrder = others.mergeSort nameOrder := by
  have hsorted (list : Entries α) :
      (list.mergeSort nameOrder).Pairwise fun a b => nameOrder a b = true :=
    List.pairwise_mergeSort nameOrder_trans nameOrder_total list
  have hsame : (entries.mergeSort nameOrder).Perm (others.mergeSort nameOrder) :=
    (List.mergeSort_perm _ _).trans (hperm.trans (List.mergeSort_perm _ _).symm)
  refine hsame.eq_of_pairwise (fun a b ha hb hab hba => ?_) (hsorted entries) (hsorted others)
  have ha : a ∈ entries := List.mem_mergeSort.mp ha
  have hb : b ∈ entries := hperm.mem_iff.mpr (List.mem_mergeSort.mp hb)
  exact List.inj_on_of_nodup_map hnodup ha hb (notAfter_antisymm hab hba)

/-- Entries are in the same order if only their values are changed. -/
lemma mergeSort_map (change : Text × α → Text × β) (hname : ∀ entry, (change entry).1 = entry.1)
    (entries : Entries α) :
    (entries.map change).mergeSort nameOrder = (entries.mergeSort nameOrder).map change := by
  refine (List.map_mergeSort fun a _ b _ => ?_).symm
  rw [nameOrder, nameOrder, hname, hname]

end

end Json

namespace Data

open Json

/-! ### Data whose numbers are integers -/

/-- **Data whose numbers are integers**, at every depth. The names of a mapping are texts, and each
stands there once. -/
inductive IsIntegral : Data → Prop
  | null : IsIntegral .null
  | bool (b : Bool) : IsIntegral (.bool b)
  | int (n : Int) : IsIntegral (.int n)
  | str (s : Text) : IsIntegral (.str s)
  | arr {items : List Data} (each : ∀ item ∈ items, IsIntegral item) : IsIntegral (.arr items)
  | obj {members : List (Text × Data)} (names : (Entries.names members).Nodup)
      (values : ∀ member ∈ members, IsIntegral member.2) : IsIntegral (.obj members)

/-- **Data that differs at most in the order of the members**: lists are alike item by item, and
mappings have the same names in some order, with values that are alike under each. -/
inductive Alike : Data → Data → Prop
  | refl (value : Data) : Alike value value
  | arr {items others : List Data} (length : items.length = others.length)
      (each : ∀ (i : Nat) (item other : Data), items[i]? = some item → others[i]? = some other →
        Alike item other) : Alike (.arr items) (.arr others)
  | obj {members others : List (Text × Data)}
      (names : (Entries.names members).Perm (Entries.names others))
      (values : ∀ (name : Text) (value other : Data), (name, value) ∈ members →
        (name, other) ∈ others → Alike value other) : Alike (.obj members) (.obj others)

/-! ### Sorted members -/

mutual

/-- The data with the members of every mapping in the order of their names. -/
def sorted : Data → Data
  | .arr items => .arr (sortedItems items)
  | .obj members => .obj ((sortedMembers members).mergeSort nameOrder)
  | value => value

/-- The items of a list, each with its members in order. -/
def sortedItems : List Data → List Data
  | [] => []
  | item :: rest => item.sorted :: sortedItems rest

/-- The members of a mapping in the given order, each value with its own members in order. -/
def sortedMembers : List (Text × Data) → List (Text × Data)
  | [] => []
  | (name, value) :: rest => (name, value.sorted) :: sortedMembers rest

end

/-- A member with the members of its value in order. -/
def sortedMember (member : Text × Data) : Text × Data :=
  (member.1, member.2.sorted)

lemma sortedItems_eq_map (items : List Data) : sortedItems items = items.map sorted := by
  induction items with
  | nil => rw [sortedItems, List.map_nil]
  | cons item rest ih => rw [sortedItems, ih, List.map_cons]

lemma sortedMembers_eq_map (members : List (Text × Data)) :
    sortedMembers members = members.map sortedMember := by
  induction members with
  | nil => rw [sortedMembers, List.map_nil]
  | cons member rest ih =>
      rw [sortedMembers, ih, List.map_cons]
      rfl

lemma sorted_arr (items : List Data) : (Data.arr items).sorted = .arr (items.map sorted) := by
  rw [sorted, sortedItems_eq_map]

lemma sorted_obj (members : List (Text × Data)) :
    (Data.obj members).sorted = .obj ((members.map sortedMember).mergeSort nameOrder) := by
  rw [sorted, sortedMembers_eq_map]

lemma names_map_sortedMember (members : List (Text × Data)) :
    Entries.names (members.map sortedMember) = Entries.names members := by
  rw [Entries.names, List.map_map]
  rfl

/-- The members of one mapping are found among those of another once they are sorted, if its names
are, and the values under a name are the same once they are sorted. -/
lemma mem_map_sortedMember {members others : List (Text × Data)}
    (hnames : Entries.names members ⊆ Entries.names others)
    (hvalues : ∀ name value other, (name, value) ∈ members → (name, other) ∈ others →
      value.sorted = other.sorted) :
    members.map sortedMember ⊆ others.map sortedMember := by
  intro entry hentry
  obtain ⟨⟨name, value⟩, hmember, rfl⟩ := List.mem_map.mp hentry
  obtain ⟨⟨_, other⟩, hother, rfl⟩ := List.mem_map.mp (hnames (List.mem_map_of_mem hmember))
  rw [sortedMember, hvalues _ value other hmember hother]
  exact List.mem_map_of_mem hother

/-- **Alike data is the same when sorted**. -/
lemma Alike.sorted_eq {x y : Data} (h : x.Alike y) (hx : x.IsIntegral) (hy : y.IsIntegral) :
    x.sorted = y.sorted := by
  induction h with
  | refl _ => rfl
  | arr hlength _ ih =>
      cases hx with | arr hitems =>
      cases hy with | arr hothers =>
      rw [sorted_arr, sorted_arr]
      refine congrArg Data.arr (List.ext_getElem (by simpa using hlength) fun i hi hj => ?_)
      rw [List.length_map] at hi hj
      rw [List.getElem_map, List.getElem_map]
      exact ih i _ _ (List.getElem?_eq_getElem hi) (List.getElem?_eq_getElem hj)
        (hitems _ (List.getElem_mem hi)) (hothers _ (List.getElem_mem hj))
  | @obj members others hnames _ ih =>
      cases hx with | obj hnodup hmembers =>
      cases hy with | obj hnodup' hothers =>
      have hnodupSorted : (Entries.names (members.map sortedMember)).Nodup := by
        rwa [names_map_sortedMember]
      have hnodupSorted' : (Entries.names (others.map sortedMember)).Nodup := by
        rwa [names_map_sortedMember]
      have hsub := mem_map_sortedMember hnames.subset fun name value other hvalue hother =>
        ih name value other hvalue hother (hmembers _ hvalue) (hothers _ hother)
      have hsup := mem_map_sortedMember hnames.symm.subset fun name other value hother hvalue =>
        (ih name value other hvalue hother (hmembers _ hvalue) (hothers _ hother)).symm
      have hperm : (members.map sortedMember).Perm (others.map sortedMember) :=
        (List.perm_ext_iff_of_nodup hnodupSorted.of_map hnodupSorted'.of_map).mpr fun _ =>
          ⟨fun hmem => hsub hmem, fun hmem => hsup hmem⟩
      rw [sorted_obj, sorted_obj, mergeSort_eq_of_perm hnodupSorted hperm]

/-- **Data that is the same when sorted is alike**. -/
lemma alike_of_sorted_eq {x y : Data} (hx : x.IsIntegral) (hy : y.IsIntegral)
    (h : x.sorted = y.sorted) : x.Alike y := by
  induction hx generalizing y with
  | arr _ ih =>
      cases hy with
      | arr hothers =>
          rw [sorted_arr, sorted_arr, Data.arr.injEq] at h
          refine .arr (by simpa using congrArg List.length h) fun i item other hitem hother => ?_
          have hi : (List.map sorted _)[i]? = (List.map sorted _)[i]? := congrArg (·[i]?) h
          rw [List.getElem?_map, List.getElem?_map, hitem, hother, Option.map_some, Option.map_some,
            Option.some.injEq] at hi
          have hintegral := hothers other (List.mem_of_getElem? hother)
          exact ih item (List.mem_of_getElem? hitem) hintegral hi
      | _ => simp [sorted] at h
  | @obj members hnodup _ ih =>
      cases hy with
      | @obj others hnodup' hothers =>
          rw [sorted_obj, sorted_obj, Data.obj.injEq] at h
          have hperm : (members.map sortedMember).Perm (others.map sortedMember) :=
            (List.mergeSort_perm _ nameOrder).symm.trans (h ▸ List.mergeSort_perm _ nameOrder)
          have hnames := hperm.map Prod.fst
          rw [← Entries.names, ← Entries.names, names_map_sortedMember, names_map_sortedMember]
            at hnames
          refine .obj hnames fun name value other hvalue hother => ?_
          -- The member of the other mapping under this name is the only one.
          obtain ⟨⟨_, same⟩, hsame, heq⟩ :=
            List.mem_map.mp (hperm.mem_iff.mp (List.mem_map_of_mem hvalue))
          obtain ⟨rfl, hsorted⟩ := Prod.mk.inj heq
          obtain ⟨-, rfl⟩ := Prod.mk.inj (List.inj_on_of_nodup_map hnodup' hsame hother rfl)
          exact ih _ hvalue (hothers _ hother) hsorted.symm
      | _ => simp [sorted] at h
  | _ => cases hy <;> simp_all [sorted, Alike.refl]

/-- **Data is alike exactly if it is the same when sorted**. -/
theorem sorted_eq_sorted_iff {x y : Data} (hx : x.IsIntegral) (hy : y.IsIntegral) :
    x.sorted = y.sorted ↔ x.Alike y :=
  ⟨alike_of_sorted_eq hx hy, fun h => h.sorted_eq hx hy⟩

/-- Sorting leaves the data alike. -/
lemma sorted_alike {x : Data} (hx : x.IsIntegral) : x.sorted.Alike x := by
  induction hx with
  | arr _ ih =>
      rw [sorted_arr]
      refine .arr (List.length_map _) fun i item other hitem hother => ?_
      rw [List.getElem?_map, hother, Option.map_some, Option.some.injEq] at hitem
      exact hitem ▸ ih other (List.mem_of_getElem? hother)
  | @obj members hnodup _ ih =>
      rw [sorted_obj]
      refine .obj ?_ fun name value other hvalue hother => ?_
      · have hperm := (List.mergeSort_perm (members.map sortedMember) nameOrder).map Prod.fst
        rwa [← Entries.names, ← Entries.names, names_map_sortedMember] at hperm
      · obtain ⟨⟨_, same⟩, hsame, heq⟩ := List.mem_map.mp (List.mem_mergeSort.mp hvalue)
        obtain ⟨rfl, rfl⟩ := Prod.mk.inj heq
        obtain ⟨-, rfl⟩ := Prod.mk.inj (List.inj_on_of_nodup_map hnodup hsame hother rfl)
        exact ih _ hsame
  | _ => exact .refl _

end Data

end BlockTree
