import BlockTree.Proofs.Nesting
import Mathlib.Data.List.TakeWhile

/-!
Attributes in the own tag of a block.

* `Attributes.decorate_append`: attributes go between the name of the first tag and the end of that
  tag, whatever comes later in the markup; `Attributes.inTag` is what they look like there.
* `Attributes.IsPlain`: attributes that are written without `<` and `>`; defaults that are merged
  into them keep them plain.
* `decorate_tagged` and `decorate_ruler`: this for the tag of an element and for that of a ruler.
* `WellNested.element`: an element whose opening tag carries plain attributes is well nested if its
  body is.
-/

namespace BlockTree

open Inline.Span (isTagChar)

namespace Attributes

/-! ### In front of the first end of a tag -/

/-- The characters of a tag up to the end of its name. -/
def isNamePart (c : Char) : Bool :=
  !Text.isBlank c && c ≠ '/' && c ≠ '>'

/-- The attributes as they follow the name of a tag: after a blank, or nothing at all. -/
def inTag (attributes : Attributes) : Text :=
  if (serialize attributes).isEmpty then [] else ' ' :: serialize attributes

lemma atTagEnd_cons {c : Char} (hc : isNamePart c = true) (rest : Text) :
    atTagEnd (c :: rest) = false := by
  simp only [isNamePart, Bool.and_eq_true, Bool.not_eq_true', decide_eq_true_eq] at hc
  obtain ⟨⟨hblank, hslash⟩, hclose⟩ := hc
  rw [atTagEnd, List.dropWhile_cons_of_neg (by simp [hblank])]
  split
  · rename_i h
    exact absurd (List.cons.inj h).1 hclose
  · rename_i h
    exact absurd (List.cons.inj h).1 hslash
  · rfl

lemma insertAtTagEnd_append {front rest : Text} (hfront : ∀ c ∈ front, isNamePart c = true)
    (hrest : atTagEnd rest = true) (inserted : Text) :
    insertAtTagEnd inserted (front ++ rest) = front ++ (inserted ++ rest) := by
  induction front with
  | nil =>
      cases rest with
      | nil => exact absurd hrest (by decide)
      | cons c rest => rw [List.nil_append, insertAtTagEnd, if_pos hrest, List.nil_append]
  | cons c front ih =>
      rw [List.forall_mem_cons] at hfront
      rw [List.cons_append, insertAtTagEnd, atTagEnd_cons hfront.1, ih hfront.2]
      rfl

/-- **Attributes go into the first tag**, right behind its name; the rest of the markup stays as it
is, whatever it holds. -/
lemma decorate_append {front rest : Text} (hfront : ∀ c ∈ front, isNamePart c = true)
    (hrest : atTagEnd rest = true) (reader : Reader) (spec : Spec) (defaults : Attributes) :
    decorate reader spec defaults (front ++ rest)
      = (spec.resolveWith reader defaults).map fun attributes =>
          front ++ (inTag attributes ++ rest) := by
  rw [decorate]
  congr 1
  funext attributes
  rw [splice, inTag]
  split
  · rfl
  · exact insertAtTagEnd_append hfront hrest _

/-! ### Plain attributes -/

/-- What holds of the characters between names and values holds of all that are written, if it holds
of those in the names and values. -/
lemma forall_mem_serialize {P : Char → Prop} (hmarks : ∀ c ∈ " =\"".toList, P c)
    {attributes : Attributes} :
    (∀ c ∈ serialize attributes, P c)
      ↔ ∀ entry ∈ attributes, (∀ c ∈ entry.1, P c) ∧ ∀ value ∈ entry.2, ∀ c ∈ value, P c := by
  have hblank : ∀ c ∈ " ".toList, P c := fun c hc => hmarks c (List.mem_append_left ['=', '"'] hc)
  have hopening : ∀ c ∈ "=\"".toList, P c := fun c hc => hmarks c (List.mem_cons_of_mem ' ' hc)
  have hclosing : ∀ c ∈ "\"".toList, P c := fun c hc =>
    hopening c (List.mem_cons_of_mem '=' hc)
  rw [serialize, Text.forall_mem_join hblank, List.forall_mem_map]
  refine forall₂_congr fun entry _ => ?_
  rw [serializeOne, List.forall_mem_append, List.forall_mem_append, List.forall_mem_append,
    Text.forall_mem_join hblank]
  exact ⟨fun h => ⟨h.1.1.1, h.1.2⟩, fun h => ⟨⟨⟨h.1, hopening⟩, h.2⟩, hclosing⟩⟩

/-- **Plain attributes** are written without `<` and `>`. -/
def IsPlain (attributes : Attributes) : Prop :=
  ∀ c ∈ serialize attributes, isTagChar c = true

instance (attributes : Attributes) : Decidable (IsPlain attributes) :=
  inferInstanceAs (Decidable (∀ c ∈ serialize attributes, isTagChar c = true))

/-- The name and the values of an entry hold neither `<` nor `>`. -/
def IsPlainEntry (entry : Text × List Text) : Prop :=
  (∀ c ∈ entry.1, isTagChar c = true) ∧ ∀ value ∈ entry.2, ∀ c ∈ value, isTagChar c = true

lemma isPlain_iff {attributes : Attributes} :
    IsPlain attributes ↔ ∀ entry ∈ attributes, IsPlainEntry entry :=
  forall_mem_serialize (by decide)

/-- Plain defaults keep plain attributes plain. -/
lemma IsPlain.merge {attributes defaults : Attributes} (h : IsPlain attributes)
    (hdefaults : IsPlain defaults) : IsPlain (merge attributes defaults) := by
  rw [isPlain_iff] at h hdefaults ⊢
  rw [Attributes.merge, Entries.insertAll]
  induction defaults generalizing attributes with
  | nil => exact h
  | cons first rest ih =>
      rw [List.forall_mem_cons] at hdefaults
      refine ih (fun entry hentry => ?_) hdefaults.2
      rcases Entries.mem_insert hentry with rfl | hentry
      · exact hdefaults.1
      · exact h entry hentry

lemma isTagChar_of_mem_inTag {attributes : Attributes} (h : IsPlain attributes) :
    ∀ c ∈ inTag attributes, isTagChar c = true := by
  rw [inTag]
  split
  · exact nofun
  · exact List.forall_mem_cons.mpr ⟨by decide, h⟩

/-- Written attributes end in a quotation mark. -/
lemma getLast?_serialize (entry : Text × List Text) (rest : Attributes) :
    (serialize (entry :: rest)).getLast? = some '"' := by
  rw [serialize]
  induction rest generalizing entry with
  | nil => exact List.getLast?_concat
  | cons next rest ih =>
      have hnext := ih next
      rw [List.map_cons] at hnext
      rw [List.map_cons, List.map_cons, Text.join_cons_cons, List.getLast?_append, hnext]
      rfl

lemma inTag_cases (attributes : Attributes) :
    inTag attributes = [] ∨ ∃ words, inTag attributes = ' ' :: words
      ∧ words.getLast? = some '"' := by
  rw [inTag]
  split
  · exact Or.inl rfl
  · cases attributes with
    | nil => exact absurd rfl (by assumption)
    | cons entry rest => exact Or.inr ⟨_, rfl, getLast?_serialize entry rest⟩

end Attributes

/-! ### Elements with attributes -/

/-- The characters of the name of an element. -/
def isElementChar (c : Char) : Bool :=
  isTagChar c && !Text.isBlank c && c ≠ '/'

lemma isElementChar_iff {c : Char} :
    isElementChar c = true ↔ isTagChar c = true ∧ Text.isBlank c = false ∧ c ≠ '/' := by
  simp [isElementChar, and_assoc]

/-- The name of an element that has a closing tag. -/
structure IsElementName (name : Text) : Prop where
  ne_nil : name ≠ []
  isElementChar : ∀ c ∈ name, isElementChar c = true
  notVoid : name ∉ voidNames

lemma IsElementName.chars {name : Text} (h : IsElementName name) :
    ∀ c ∈ name, isTagChar c = true ∧ Text.isBlank c = false ∧ c ≠ '/' :=
  fun c hc => isElementChar_iff.mp (h.isElementChar c hc)

/-- An element without attributes, and what follows it. -/
def elementHtml (name body after : Text) : Text :=
  tagged name (body ++ tagged ('/' :: name) after)

/-- An element with attributes in its opening tag, and what follows it. -/
def decoratedHtml (name : Text) (attributes : Attributes) (body after : Text) : Text :=
  tagged (name ++ Attributes.inTag attributes) (body ++ tagged ('/' :: name) after)

section

variable {name : Text} (hname : IsElementName name)
include hname

lemma IsElementName.tagName_append {rest : Text} (hrest : nameEnds rest = true) :
    tagName (name ++ rest) = name :=
  (BlockTree.tagName_append (fun c hc => (hname.chars c hc).2.1) rest).mpr hrest

/-- A tag opens the element that it names, unless it ends in a slash. -/
lemma IsElementName.tagRole_append {rest : Text} (hends : nameEnds rest = true)
    (hlast : (name ++ rest).getLast? ≠ some '/') : tagRole (name ++ rest) = .opens name := by
  rw [tagRole, if_neg hlast, hname.tagName_append hends]
  split
  · exact absurd rfl (hname.chars '/' List.mem_cons_self).2.2
  · exact if_neg hname.notVoid

/-- An opening tag opens its element, with or without attributes. -/
lemma IsElementName.tagRole_opening (attributes : Attributes) :
    tagRole (name ++ Attributes.inTag attributes) = .opens name := by
  have hends : nameEnds (Attributes.inTag attributes) = true := by
    rcases Attributes.inTag_cases attributes with h | ⟨words, h, -⟩
    · rw [h]
      rfl
    · rw [h]
      rfl
  have hlast : (name ++ Attributes.inTag attributes).getLast? ≠ some '/' := by
    rcases Attributes.inTag_cases attributes with h | ⟨words, h, hwords⟩
    · rw [h, List.append_nil]
      exact fun h => (hname.chars '/' (List.mem_of_getLast? h)).2.2 rfl
    · rw [h, List.getLast?_append, List.getLast?_cons, hwords]
      exact fun h => nomatch h
  exact hname.tagRole_append hends hlast

lemma IsElementName.tagRole_closing : tagRole ('/' :: name) = .closes name := by
  have hlast := List.getLast?_eq_some_getLast hname.ne_nil
  have hslash : ('/' :: name).getLast? ≠ some '/' := by
    rw [List.getLast?_cons, hlast]
    intro h
    exact (hname.chars _ (List.mem_of_getLast? hlast)).2.2 (Option.some.inj h)
  have htag : tagName ('/' :: name) = '/' :: name := by
    rw [tagName, List.takeWhile_eq_self_iff]
    exact List.forall_mem_cons.mpr ⟨by decide, fun c hc => by simp [(hname.chars c hc).2.1]⟩
  rw [tagRole, if_neg hslash, htag]
  rfl

/-- **An element with plain attributes** is well nested if its body is. -/
lemma WellNested.element {attributes : Attributes} (hplain : Attributes.IsPlain attributes)
    {body after : Text} (hbody : WellNested body) (hafter : WellNested after) :
    WellNested (decoratedHtml name attributes body after) := by
  refine hbody.enclose (fun c hc => ?_) (hname.tagRole_opening attributes)
    (List.forall_mem_cons.mpr ⟨by decide, fun c hc => (hname.chars c hc).1⟩)
    hname.tagRole_closing hafter
  rcases List.mem_append.mp hc with hc | hc
  · exact (hname.chars c hc).1
  · exact Attributes.isTagChar_of_mem_inTag hplain c hc

lemma IsElementName.isNamePart : ∀ c ∈ '<' :: name, Attributes.isNamePart c = true := by
  refine List.forall_mem_cons.mpr ⟨by decide, fun c hc => ?_⟩
  obtain ⟨htag, hblank, hslash⟩ := hname.chars c hc
  have hclose : c ≠ '>' := by
    rintro rfl
    exact absurd htag (by decide)
  simp [Attributes.isNamePart, hblank, hslash, hclose]

/-- The attributes of an element go into its opening tag. -/
lemma decorate_tagged (reader : Attributes.Reader) (spec : Attributes.Spec) (defaults : Attributes)
    (rest : Text) :
    Attributes.decorate reader spec defaults (tagged name rest)
      = (spec.resolveWith reader defaults).map fun attributes =>
          tagged (name ++ Attributes.inTag attributes) rest := by
  have hend : Attributes.atTagEnd ('>' :: rest) = true := rfl
  have h := Attributes.decorate_append hname.isNamePart hend reader spec defaults
  rw [tagged, ← List.cons_append, h]
  congr 1
  funext attributes
  simp [tagged]

end

/-- The attributes of a ruler go in front of its slash. -/
lemma decorate_ruler (reader : Attributes.Reader) (spec : Attributes.Spec)
    (defaults : Attributes) :
    Attributes.decorate reader spec defaults "<hr/>\n"
      = (spec.resolveWith reader defaults).map fun attributes =>
          "<hr" ++ (Attributes.inTag attributes ++ "/>\n") := by
  have hname : ∀ c ∈ "<hr".toList, Attributes.isNamePart c = true := by decide
  have hend : Attributes.atTagEnd "/>\n".toList = true := by decide
  have hmarkup : "<hr/>\n".toList = "<hr".toList ++ "/>\n".toList := by decide
  rw [hmarkup, Attributes.decorate_append hname hend]

end BlockTree
