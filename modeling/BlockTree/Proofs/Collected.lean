import BlockTree.Schema.Block
import Mathlib.Tactic

/-!
Checks that collect the issues of all parts of a value.

* `Check.issues` and `Check.IsSettled`: what a check reports, and that it comes to a value or to at
  least one issue; `IsSettled.isOk_iff`: to a value exactly if it reports nothing.
* `issues_seq`, `issues_within` and `issues_items`: two settled checks report the issues of both, a
  step is put in front of the issues of a part, and a list reports those of its items in order.
* `Settles`: the checks of plain values, of lists and of mappings are settled for every value.
* `seq_eq_ok`, `ensure_eq_ok`, `default_eq_ok`, `items_eq_ok` and the like: what has been read if a check
  comes to a value.
* `default_congr`, `required_congr` and `items_congr`: the check of a member depends on the value of that
  member only, that of a list on those of its items; `exists_path_of_default` and
  `exists_path_of_required`: the issues of a member are below its name.
-/

namespace BlockTree.Schema

variable {α β : Type}

/-- The issue of a part, seen from the whole: the way to the part is put in front. -/
def Issue.under (path : List Step) (issue : Issue) : Issue :=
  { issue with path := path ++ issue.path }

lemma Issue.under_under (front back : List Step) (issue : Issue) :
    (issue.under back).under front = issue.under (front ++ back) := by
  rw [under, under, under, List.append_assoc]

namespace Check

/-- The issues that a check reports. -/
def issues : Check α → List Issue
  | .invalid issues => issues
  | _ => []

/-- **A settled check** comes to a value, or to at least one issue. -/
def IsSettled : Check α → Prop
  | .ok _ => True
  | .invalid issues => issues ≠ []
  | .broken _ => False

/-- A settled check comes to a value exactly if it reports nothing. -/
lemma IsSettled.isOk_iff {x : Check α} (h : x.IsSettled) : (∃ a, x = .ok a) ↔ x.issues = [] := by
  cases x with
  | ok a => exact ⟨fun _ => rfl, fun _ => ⟨a, rfl⟩⟩
  | invalid issues =>
      constructor
      · rintro ⟨a, ha⟩
        cases ha
      · exact fun hnil => absurd hnil h
  | broken cause => exact h.elim

lemma isSettled_fail (violation : Violation) : (fail violation : Check α).IsSettled :=
  List.cons_ne_nil _ _

/-! ### Two checks -/

lemma isSettled_seq {f : Check (α → β)} {x : Check α} (hf : f.IsSettled) (hx : x.IsSettled) :
    (f <*> x).IsSettled := by
  cases f with
  | broken cause => exact hf.elim
  | ok g =>
      cases x with
      | broken cause => exact hx.elim
      | ok a => trivial
      | invalid issues => exact hx
  | invalid issues =>
      cases x with
      | broken cause => exact hx.elim
      | ok a => exact hf
      | invalid more => exact List.append_ne_nil_of_left_ne_nil hf more

/-- **Two settled checks** report the issues of both. -/
lemma issues_seq {f : Check (α → β)} {x : Check α} (hf : f.IsSettled) (hx : x.IsSettled) :
    (f <*> x).issues = f.issues ++ x.issues := by
  cases f with
  | broken cause => exact hf.elim
  | ok g =>
      cases x with
      | broken cause => exact hx.elim
      | ok a => rfl
      | invalid issues => rfl
  | invalid issues =>
      cases x with
      | broken cause => exact hx.elim
      | ok a => exact (List.append_nil issues).symm
      | invalid more => rfl

lemma isSettled_map (f : α → β) {x : Check α} (hx : x.IsSettled) : (f <$> x).IsSettled :=
  isSettled_seq (f := .ok f) trivial hx

@[simp]
lemma issues_map (f : α → β) (x : Check α) : (f <$> x).issues = x.issues := by
  cases x <;> rfl

lemma seq_eq_ok {f : Check (α → β)} {x : Check α} {b : β} :
    f <*> x = .ok b ↔ ∃ g a, f = .ok g ∧ x = .ok a ∧ g a = b := by
  constructor
  · intro h
    cases f with
    | broken cause => cases h
    | ok g =>
        cases x with
        | broken cause => cases h
        | ok a => exact ⟨g, a, rfl, rfl, Check.ok.inj h⟩
        | invalid issues => cases h
    | invalid issues => cases x <;> cases h
  · rintro ⟨g, a, rfl, rfl, rfl⟩
    rfl

lemma map_eq_ok {f : α → β} {x : Check α} {b : β} :
    f <$> x = .ok b ↔ ∃ a, x = .ok a ∧ f a = b := by
  cases x with
  | ok a => exact ⟨fun h => ⟨a, rfl, Check.ok.inj h⟩, by rintro ⟨_, ⟨⟩, rfl⟩; rfl⟩
  | invalid issues => exact ⟨nofun, nofun⟩
  | broken cause => exact ⟨nofun, nofun⟩

lemma map_seq_eq_ok {γ : Type} {f : α → γ → β} {x : Check α} {y : Check γ} {b : β} :
    f <$> x <*> y = .ok b ↔ ∃ a c, x = .ok a ∧ y = .ok c ∧ f a c = b := by
  rw [seq_eq_ok]
  constructor
  · rintro ⟨_, c, hmap, hy, rfl⟩
    obtain ⟨a, hx, rfl⟩ := map_eq_ok.mp hmap
    exact ⟨a, c, hx, hy, rfl⟩
  · rintro ⟨a, c, hx, hy, rfl⟩
    exact ⟨f a, c, map_eq_ok.mpr ⟨a, hx, rfl⟩, hy, rfl⟩

/-! ### Parts -/

lemma isSettled_within {x : Check α} (h : x.IsSettled) (step : Step) :
    (x.within step).IsSettled := by
  cases x with
  | ok a => trivial
  | invalid issues => exact fun hnil => h (List.map_eq_nil_iff.mp hnil)
  | broken cause => exact h.elim

@[simp]
lemma issues_within (x : Check α) (step : Step) :
    (x.within step).issues = x.issues.map (Issue.under [step]) := by
  cases x <;> rfl

@[simp]
lemma within_eq_ok {x : Check α} {step : Step} {a : α} : x.within step = .ok a ↔ x = .ok a := by
  cases x with
  | ok b => exact Iff.rfl
  | invalid issues => exact ⟨nofun, nofun⟩
  | broken cause => exact ⟨nofun, nofun⟩

lemma isSettled_ensure {x : Check α} (h : x.IsSettled) (p : α → Option Violation) :
    (x.ensure p).IsSettled := by
  cases x with
  | ok a =>
      rw [ensure]
      split
      · trivial
      · exact isSettled_fail _
  | invalid issues => exact h
  | broken cause => exact h.elim

lemma ensure_eq_ok {x : Check α} {p : α → Option Violation} {a : α} :
    x.ensure p = .ok a ↔ x = .ok a ∧ p a = none := by
  cases x with
  | ok b =>
      rw [ensure]
      split
      · rename_i hb
        exact ⟨fun h => ⟨h, Check.ok.inj h ▸ hb⟩, And.left⟩
      · rename_i hb
        refine ⟨nofun, ?_⟩
        rintro ⟨⟨⟩, ha⟩
        rw [hb] at ha
        cases ha
  | invalid issues => exact ⟨nofun, nofun⟩
  | broken cause => exact ⟨nofun, nofun⟩

/-! ### Members -/

section

variable {members others : List (Text × Data)} {name : Text} {value : α} {check : Data → Check α}

lemma isSettled_default
    (h : ∀ data, Entries.find? name members = some data → (check data).IsSettled) :
    (default members name value check).IsSettled := by
  rw [default, member]
  split
  · trivial
  · exact isSettled_within (h _ (by assumption)) _

lemma isSettled_required
    (h : ∀ data, Entries.find? name members = some data → (check data).IsSettled) :
    (required members name check).IsSettled := by
  rw [required, member]
  split
  · exact isSettled_within (isSettled_fail _) _
  · exact isSettled_within (h _ (by assumption)) _

/-- The check of a member depends on the value of that member only. -/
lemma default_congr (h : Entries.find? name others = Entries.find? name members) :
    default others name value check = default members name value check := by
  rw [default, default, member, member, h]

lemma required_congr (h : Entries.find? name others = Entries.find? name members) :
    required others name check = required members name check := by
  rw [required, required, member, member, h]

lemma default_eq_ok {a : α} :
    default members name value check = .ok a
      ↔ Entries.find? name members = none ∧ value = a
        ∨ ∃ data, Entries.find? name members = some data ∧ check data = .ok a := by
  rw [default, member]
  cases Entries.find? name members with
  | none => simp
  | some data => simp

lemma required_eq_ok {a : α} :
    required members name check = .ok a
      ↔ ∃ data, Entries.find? name members = some data ∧ check data = .ok a := by
  rw [required, member]
  cases Entries.find? name members with
  | none => simp [fail]
  | some data => simp

lemma exists_path_of_within {x : Check α} {step : Step} :
    ∀ issue ∈ (x.within step).issues, ∃ rest, issue.path = step :: rest := by
  intro issue hissue
  rw [issues_within] at hissue
  obtain ⟨inner, -, rfl⟩ := List.mem_map.mp hissue
  exact ⟨inner.path, rfl⟩

/-- The check of a member reports below the name of the member. -/
lemma exists_path_of_default :
    ∀ issue ∈ (default members name value check).issues,
      ∃ rest, issue.path = .name name :: rest := by
  rw [default, member]
  split
  · rintro issue ⟨⟩
  · exact exists_path_of_within

lemma exists_path_of_required :
    ∀ issue ∈ (required members name check).issues,
      ∃ rest, issue.path = .name name :: rest := by
  rw [required, member]
  split
  · exact exists_path_of_within
  · exact exists_path_of_within

end

/-! ### Lists -/

section

variable {check : Data → Check α}

lemma isSettled_items {values : List Data} (h : ∀ value ∈ values, (check value).IsSettled)
    (index : Nat) : (items check index values).IsSettled := by
  induction values generalizing index with
  | nil => trivial
  | cons value rest ih =>
      rw [List.forall_mem_cons] at h
      exact isSettled_seq (isSettled_map _ (isSettled_within h.1 _)) (ih h.2 (index + 1))

/-- **A list reports the issues of its items in order**, each below the index of its item. -/
lemma issues_items {values : List Data} (h : ∀ value ∈ values, (check value).IsSettled)
    (index : Nat) :
    (items check index values).issues
      = (values.zipIdx index).flatMap fun item =>
          (check item.1).issues.map (Issue.under [.index item.2]) := by
  induction values generalizing index with
  | nil => rfl
  | cons value rest ih =>
      have hall := isSettled_items h
      rw [List.forall_mem_cons] at h
      rw [items, issues_seq (isSettled_map _ (isSettled_within h.1 _)) (isSettled_items h.2 _),
        issues_map, issues_within, ih h.2, List.zipIdx_cons, List.flatMap_cons]

/-- A list is read from what is read from its items. -/
lemma items_congr {values others : List Data} (h : others.map check = values.map check)
    (index : Nat) : items check index others = items check index values := by
  induction values generalizing others index with
  | nil =>
      obtain rfl := List.map_eq_nil_iff.mp h
      rfl
  | cons value rest ih =>
      obtain ⟨first, more, rfl, hfirst, hmore⟩ := List.map_eq_cons_iff.mp h
      rw [items, items, hfirst, ih hmore]

lemma items_eq_ok {values : List Data} {index : Nat} {results : List α} :
    items check index values = .ok results
      ↔ List.Forall₂ (fun value result => check value = .ok result) values results := by
  induction values generalizing index results with
  | nil =>
      rw [items, List.forall₂_nil_left_iff]
      exact ⟨fun h => (Check.ok.inj h).symm, fun h => h ▸ rfl⟩
  | cons value rest ih =>
      rw [items, map_seq_eq_ok, List.forall₂_cons_left_iff]
      constructor
      · rintro ⟨result, more, hresult, hmore, rfl⟩
        exact ⟨result, more, within_eq_ok.mp hresult, ih.mp hmore, rfl⟩
      · rintro ⟨result, more, hresult, hmore, rfl⟩
        exact ⟨result, more, within_eq_ok.mpr hresult, ih.mpr hmore, rfl⟩

/-- What holds of all that is read from the items holds of the list that is read. -/
lemma forall_of_items_eq_ok {p : α → Prop} {values : List Data} {index : Nat} {results : List α}
    (h : items check index values = .ok results)
    (hp : ∀ value ∈ values, ∀ result, check value = .ok result → p result) :
    ∀ result ∈ results, p result := by
  have hitems := items_eq_ok.mp h
  clear h
  induction hitems with
  | nil => exact nofun
  | cons hresult _ ih =>
      rw [List.forall_mem_cons] at hp
      exact List.forall_mem_cons.mpr ⟨hp.1 _ hresult, ih hp.2⟩

end

end Check

open Check

/-! ### Plain values -/

/-- **A check settles** every value. -/
def Settles (check : Data → Check α) : Prop :=
  ∀ value, (check value).IsSettled

lemma text_settles : Settles text := by
  intro value
  cases value with
  | str s => trivial
  | _ => exact isSettled_fail _

lemma oneOf_settles (word : α → Text) (values : List α) : Settles (oneOf word values) := by
  intro value
  cases value with
  | str s =>
      rw [oneOf]
      split
      · trivial
      · exact isSettled_fail _
  | _ => exact isSettled_fail _

lemma isSettled_integerOfReal (x : Binary64) : (integerOfReal x).IsSettled := by
  cases x with
  | finite negative mantissa exponent =>
      rw [integerOfReal]
      split
      · exact isSettled_fail _
      · split
        · trivial
        · exact isSettled_fail _
  | _ => exact isSettled_fail _

lemma integer_settles : Settles integer := by
  intro value
  cases value with
  | int n => trivial
  | bool b => trivial
  | real x => exact isSettled_integerOfReal x
  | str s =>
      rw [integer]
      split
      · trivial
      · exact isSettled_fail _
      · exact isSettled_fail _
  | _ => exact isSettled_fail _

lemma integerFrom_settles (least : Int) : Settles (integerFrom least) := fun value =>
  isSettled_ensure (integer_settles value) _

lemma integerBetween_settles (least greatest : Int) : Settles (integerBetween least greatest) :=
  fun value => isSettled_ensure (integerFrom_settles least value) _

lemma isSettled_booleanOfInteger (n : Int) : (booleanOfInteger n).IsSettled := by
  rw [booleanOfInteger]
  split
  · trivial
  · split
    · trivial
    · exact isSettled_fail _

lemma boolean_settles : Settles boolean := by
  intro value
  cases value with
  | bool b => trivial
  | int n =>
      rw [boolean]
      split
      · exact isSettled_booleanOfInteger n
      · exact isSettled_fail _
  | real x =>
      rw [boolean]
      split
      · exact isSettled_booleanOfInteger _
      · exact isSettled_fail _
  | str s =>
      rw [boolean]
      split
      · trivial
      · split
        · trivial
        · exact isSettled_fail _
  | _ => exact isSettled_fail _

section

variable {check : Data → Check α}

lemma Settles.optional (h : Settles check) : Settles (optional check) := by
  intro value
  cases value with
  | null => trivial
  | _ => exact isSettled_map _ (h _)

lemma Settles.list (h : Settles check) : Settles (list check) := by
  intro value
  cases value with
  | arr values => exact isSettled_items (fun value _ => h value) 0
  | _ => exact isSettled_fail _

lemma Settles.default (h : Settles check) (members : List (Text × Data)) (name : Text)
    (value : α) : (Check.default members name value check).IsSettled :=
  isSettled_default fun data _ => h data

lemma Settles.required (h : Settles check) (members : List (Text × Data)) (name : Text) :
    (Check.required members name check).IsSettled :=
  isSettled_required fun data _ => h data

lemma Settles.mapping (h : Settles check) : Settles (mapping check) := by
  have hentries : ∀ members, (entries check members).IsSettled := by
    intro members
    induction members with
    | nil => trivial
    | cons member rest ih => exact isSettled_seq (isSettled_map _ (isSettled_within (h _) _)) ih
  have hstrangers : ∀ others, (strangers check others).IsSettled := by
    intro others
    induction others with
    | nil => trivial
    | cons other rest ih =>
        have hname : ((fail .notText : Check Unit).within (.name "[key]")).IsSettled :=
          isSettled_within (isSettled_fail _) _
        exact isSettled_seq (isSettled_seq (isSettled_map _ (isSettled_within hname _))
          (isSettled_within (h _) _)) ih
  intro value
  cases value with
  | obj members => exact hentries members
  | mixed members others =>
      exact isSettled_seq (isSettled_map _ (hentries members)) (hstrangers others)
  | _ => exact isSettled_fail _

end

lemma attributesSpec_settles : Settles attributesSpec := by
  have hmapping : ∀ value, ((Attributes.Spec.listed <$> mapping (list text) value).within
      (.name "dict[str,list[str]]")).IsSettled := fun value =>
    isSettled_within (isSettled_map _ (text_settles.list.mapping value)) _
  intro value
  cases value with
  | null => trivial
  | str raw => trivial
  | _ =>
      rw [attributesSpec]
      · split
        · exact List.cons_ne_nil _ _
        · exact hmapping _
      all_goals exact nofun

lemma isSettled_head (members : List (Text × Data)) : (head members).IsSettled :=
  isSettled_seq (isSettled_map _ (attributesSpec_settles.default _ _ _))
    (integer_settles.default _ _ _)

lemma head_congr {members others : List (Text × Data)}
    (hattributes : Entries.find? "attrs" others = Entries.find? "attrs" members)
    (hline : Entries.find? "lnb" others = Entries.find? "lnb" members) :
    head others = head members := by
  rw [head, head, Check.default_congr hattributes, Check.default_congr hline]

end BlockTree.Schema
