import BlockTree.Proofs.Nesting

/-!
Tags put around parts of tags.

* `Avoids`: tags that neither open nor close an element of a name; `unclosed?_enclosed`: around such
  tags the element is closed just if they match like brackets themselves.
* `Encloses`: an element is put around some parts of a list of tags; `Encloses.unclosed?_iff`: the
  tags match afterwards just if they did before, and those in each of the parts do.
* `Lacks`: a text whose tags avoid a name.
* `balance`: how many more elements are opened than closed. Tags put around parts leave it as it is.
* `IsEven`: a text in which as many elements are opened as closed; `IsEven.wellNested_append_iff`:
  such texts are well nested together just if each is.
-/

namespace BlockTree

/-! ### Names that are avoided -/

/-- **The tags avoid a name**: they neither open nor close an element of it. -/
def Avoids (name : Text) (tags : List Text) : Prop :=
  ∀ tag ∈ tags, tagRole tag ≠ .opens name ∧ tagRole tag ≠ .closes name

lemma Avoids.append {name : Text} {front back : List Text} (hfront : Avoids name front)
    (hback : Avoids name back) : Avoids name (front ++ back) :=
  List.forall_mem_append.mpr ⟨hfront, hback⟩

/-- An element of a name that is avoided stays open, and the elements inside it match on their own.
-/
lemma unclosed?_of_avoids {name : Text} {tags : List Text} (h : Avoids name tags) :
    ∀ {inner outer left : List Text}, name ∉ inner →
      unclosed? (inner ++ name :: outer) tags = some left →
      ∃ opened, left = opened ++ name :: outer ∧ name ∉ opened
        ∧ unclosed? inner tags = some opened := by
  induction tags with
  | nil =>
      intro inner outer left hinner hleft
      rw [unclosed?, Option.some.injEq] at hleft
      exact ⟨inner, hleft.symm, hinner, by rw [unclosed?]⟩
  | cons tag rest ih =>
      intro inner outer left hinner hleft
      obtain ⟨⟨hopens, hcloses⟩, hrest⟩ := List.forall_mem_cons.mp h
      rw [unclosed?] at hleft ⊢
      cases hrole : tagRole tag with
      | alone =>
          rw [hrole] at hleft
          exact ih hrest hinner hleft
      | opens other =>
          rw [hrole] at hleft
          have hother : name ∉ other :: inner := by
            refine List.not_mem_cons_of_ne_of_not_mem ?_ hinner
            rintro rfl
            exact hopens hrole
          exact ih hrest hother hleft
      | closes other =>
          rw [hrole] at hleft
          cases inner with
          | nil =>
              -- The element itself cannot be the one that is closed.
              simp only [List.nil_append] at hleft
              rw [if_neg] at hleft
              · cases hleft
              · rintro rfl
                exact hcloses hrole
          | cons last inner =>
              simp only [List.cons_append] at hleft ⊢
              split at hleft
              · rw [if_pos (by assumption)]
                exact ih hrest (List.not_mem_of_not_mem_cons hinner) hleft
              · cases hleft

section

variable {opening closing name : Text} (hopening : tagRole opening = .opens name)
  (hclosing : tagRole closing = .closes name)

include hopening hclosing

/-- **An element around tags that avoid its name** is closed just if they match like brackets. -/
lemma unclosed?_enclosed {body : List Text} (h : Avoids name body) (names rest left : List Text) :
    unclosed? names (opening :: (body ++ closing :: rest)) = some left
      ↔ unclosed? [] body = some [] ∧ unclosed? names rest = some left := by
  rw [unclosed?, hopening]
  show unclosed? (name :: names) (body ++ closing :: rest) = some left ↔ _
  rw [unclosed?_append]
  constructor
  · intro hleft
    obtain ⟨opened, hbody, hrest⟩ := Option.bind_eq_some_iff.mp hleft
    obtain ⟨inside, rfl, hname, hinside⟩ := unclosed?_of_avoids h List.not_mem_nil hbody
    rw [unclosed?, hclosing] at hrest
    cases inside with
    | nil =>
        simp only [List.nil_append, if_true] at hrest
        exact ⟨hinside, hrest⟩
    | cons last inside =>
        have hlast : last ≠ name := Ne.symm (List.ne_of_not_mem_cons hname)
        simp only [List.cons_append, if_neg hlast] at hrest
        cases hrest
  · rintro ⟨hbody, hrest⟩
    have hinside : unclosed? (name :: names) body = some (name :: names) :=
      unclosed?_frame hbody (name :: names)
    rw [hinside, Option.bind_some, unclosed?, hclosing]
    simpa using hrest

end

/-! ### Elements put around parts -/

/-- **An element is put around parts of the tags**, which are listed; the other tags stay. -/
inductive Encloses (opening closing : Text) :
    List (List Text) → List Text → List Text → Prop where
  | nil : Encloses opening closing [] [] []
  | keep {bodies : List (List Text)} {tags wrapped : List Text} (tag : Text) :
      Encloses opening closing bodies tags wrapped →
      Encloses opening closing bodies (tag :: tags) (tag :: wrapped)
  | element {bodies : List (List Text)} {tags wrapped : List Text} (body : List Text) :
      Encloses opening closing bodies tags wrapped →
      Encloses opening closing (body :: bodies) (body ++ tags)
        (opening :: (body ++ closing :: wrapped))

namespace Encloses

variable {opening closing name : Text} {bodies : List (List Text)} {tags wrapped : List Text}

/-- **The tags match after an element is put around parts** just if they did before, and those in
each of the parts do. -/
lemma unclosed?_iff (hopening : tagRole opening = .opens name)
    (hclosing : tagRole closing = .closes name) (h : Encloses opening closing bodies tags wrapped)
    (havoids : Avoids name tags) (names left : List Text) :
    unclosed? names wrapped = some left
      ↔ (∀ body ∈ bodies, unclosed? [] body = some []) ∧ unclosed? names tags = some left := by
  induction h generalizing names with
  | nil => exact (and_iff_right (List.forall_mem_nil _)).symm
  | keep tag h ih =>
      have htags := (List.forall_mem_cons.mp havoids).2
      rw [unclosed?, unclosed?]
      cases tagRole tag with
      | alone => exact ih htags names
      | opens other => exact ih htags (other :: names)
      | closes other =>
          cases names with
          | nil => exact iff_of_false (by simp) (by simp)
          | cons last outer =>
              dsimp only
              split
              · exact ih htags outer
              · exact iff_of_false (by simp) (by simp)
  | element body h ih =>
      obtain ⟨hbody, htags⟩ := List.forall_mem_append.mp havoids
      rw [unclosed?_enclosed hopening hclosing hbody, ih htags, List.forall_mem_cons, and_assoc]
      refine and_congr_right fun hnested => and_congr_right fun _ => ?_
      -- The part matches on its own, so that the tags behind it find the same elements open.
      have hsame : unclosed? names body = some names := unclosed?_frame hnested names
      rw [unclosed?_append, hsame, Option.bind_some]

/-- No other name comes in. -/
lemma avoids (h : Encloses opening closing bodies tags wrapped)
    (hopening : Avoids name [opening]) (hclosing : Avoids name [closing])
    (havoids : Avoids name tags) : Avoids name wrapped := by
  induction h with
  | nil => exact havoids
  | keep tag h ih =>
      obtain ⟨htag, htags⟩ := List.forall_mem_cons.mp havoids
      exact List.forall_mem_cons.mpr ⟨htag, ih htags⟩
  | element body h ih =>
      obtain ⟨hbody, htags⟩ := List.forall_mem_append.mp havoids
      exact hopening.append (Avoids.append hbody (hclosing.append (ih htags)))

end Encloses

/-! ### Texts that lack a name -/

lemma HasTags.unique {text : Text} {tags others : List Text} (h : HasTags text tags)
    (hothers : HasTags text others) : tags = others :=
  Option.some.inj (h.tags?_eq.symm.trans hothers.tags?_eq)

lemma HasTags.wellNested_iff {text : Text} {tags : List Text} (h : HasTags text tags) :
    WellNested text ↔ unclosed? [] tags = some [] := by
  rw [BlockTree.wellNested_iff, h.tags?_eq, Option.bind_some]

/-- **A text lacks elements of a name**: none of its tags opens or closes one. -/
def Lacks (name text : Text) : Prop :=
  ∃ tags, HasTags text tags ∧ Avoids name tags

lemma forall_wellNested_iff {texts : List Text} {inner : List (List Text)}
    (h : List.Forall₂ HasTags texts inner) :
    (∀ text ∈ texts, WellNested text) ↔ ∀ tags ∈ inner, unclosed? [] tags = some [] := by
  induction h with
  | nil => exact iff_of_true (List.forall_mem_nil _) (List.forall_mem_nil _)
  | cons htags _ ih => rw [List.forall_mem_cons, List.forall_mem_cons, htags.wellNested_iff, ih]

lemma lacks_of_notMem {name text : Text} (h : '<' ∉ text) : Lacks name text :=
  ⟨[], hasTags_of_notMem h, nofun⟩

/-! ### Balance -/

/-- What a tag adds to the number of open elements. -/
def TagRole.change : TagRole → Int
  | .alone => 0
  | .opens _ => 1
  | .closes _ => -1

/-- **How many more elements the tags open than they close**. -/
def balance (tags : List Text) : Int :=
  (tags.map fun tag => (tagRole tag).change).sum

lemma balance_cons (tag : Text) (rest : List Text) :
    balance (tag :: rest) = (tagRole tag).change + balance rest := by
  rw [balance, List.map_cons, List.sum_cons, ← balance]

lemma balance_append (front back : List Text) :
    balance (front ++ back) = balance front + balance back := by
  rw [balance, List.map_append, List.sum_append, ← balance, ← balance]

/-- Where tags match, their balance is what they add to the open elements. -/
lemma length_of_unclosed? {names left tags : List Text} (h : unclosed? names tags = some left) :
    (left.length : Int) = names.length + balance tags := by
  induction tags generalizing names with
  | nil =>
      rw [unclosed?, Option.some.injEq] at h
      rw [h]
      exact (add_zero _).symm
  | cons tag rest ih =>
      rw [unclosed?] at h
      rw [balance_cons]
      cases hrole : tagRole tag with
      | alone =>
          rw [hrole] at h
          rw [ih h, TagRole.change, zero_add]
      | opens name =>
          rw [hrole] at h
          have hlength := ih h
          rw [List.length_cons] at hlength
          rw [TagRole.change]
          omega
      | closes name =>
          rw [hrole] at h
          cases names with
          | nil => cases h
          | cons last outer =>
              dsimp only at h
              split at h
              · have hlength := ih h
                rw [TagRole.change, List.length_cons]
                omega
              · cases h

lemma Encloses.balance_eq {opening closing name : Text} {bodies : List (List Text)}
    {tags wrapped : List Text} (hopening : tagRole opening = .opens name)
    (hclosing : tagRole closing = .closes name)
    (h : Encloses opening closing bodies tags wrapped) : balance wrapped = balance tags := by
  induction h with
  | nil => rfl
  | keep tag h ih => rw [balance_cons, balance_cons, ih]
  | element body h ih =>
      rw [balance_cons, balance_append, balance_append, balance_cons, ih, hopening, hclosing]
      simp only [TagRole.change]
      omega

/-- Each part gets one opening and one closing tag. -/
lemma Encloses.count_eq {opening closing : Text} {bodies : List (List Text)}
    {tags wrapped : List Text} (h : Encloses opening closing bodies tags wrapped) (tag : Text) :
    wrapped.count tag = tags.count tag + bodies.length * [opening, closing].count tag := by
  induction h with
  | nil => simp
  | keep other h ih =>
      rw [List.count_cons, List.count_cons, ih]
      omega
  | @element bodies tags wrapped body h ih =>
      have hopening : (opening :: (body ++ closing :: wrapped)).count tag
          = body.count tag + wrapped.count tag + [opening, closing].count tag := by
        simp only [List.count_cons, List.count_append, List.count_nil]
        omega
      rw [hopening, ih, List.count_append, List.length_cons, Nat.succ_mul]
      omega

/-! ### IsEven texts -/

/-- **A text is even** if it opens as many elements as it closes, in whatever order. -/
def IsEven (text : Text) : Prop :=
  ∃ tags, HasTags text tags ∧ balance tags = 0

lemma WellNested.isEven {text : Text} (h : WellNested text) : IsEven text := by
  obtain ⟨tags, htags, hunclosed⟩ := h
  have hlength := length_of_unclosed? hunclosed
  rw [List.length_nil] at hlength
  exact ⟨tags, htags, by omega⟩

lemma IsEven.append {front back : Text} (hfront : IsEven front) (hback : IsEven back) :
    IsEven (front ++ back) := by
  obtain ⟨tags, htags, hbalance⟩ := hfront
  obtain ⟨others, hothers, hother⟩ := hback
  exact ⟨tags ++ others, htags.append hothers, by rw [balance_append, hbalance, hother, add_zero]⟩

/-- **IsEven texts are well nested together** just if each of them is. -/
lemma IsEven.wellNested_append_iff {front back : Text} (hfront : IsEven front)
    (hback : IsEven back) : WellNested (front ++ back) ↔ WellNested front ∧ WellNested back := by
  refine ⟨fun h => ?_, fun h => h.1.append h.2⟩
  obtain ⟨tags, htags, hbalance⟩ := hfront
  obtain ⟨others, hothers, -⟩ := hback
  rw [(htags.append hothers).wellNested_iff, unclosed?_append] at h
  obtain ⟨opened, hopened, hrest⟩ := Option.bind_eq_some_iff.mp h
  have hlength := length_of_unclosed? hopened
  rw [hbalance, List.length_nil] at hlength
  obtain rfl : opened = [] := List.length_eq_zero_iff.mp (by omega)
  exact ⟨htags.wellNested_iff.mpr hopened, hothers.wellNested_iff.mpr hrest⟩

end BlockTree
