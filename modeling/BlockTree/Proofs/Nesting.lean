import BlockTree.Render.Block
import Mathlib.Tactic

/-!
Nesting of tags in markup.

* `HasTags`: every `<` of a text begins a complete tag, and this is what stands inside the tags;
  `hasTags_iff` computes it.
* `unclosed?`: the elements that are open after tags have been read, if each closing tag closes the
  element opened last; tags that close themselves and those of void elements do not count.
* `WellNested`: a text whose tags match like brackets. `WellNested.append`, `WellNested.alone` and
  `WellNested.enclose` build such texts up.
* `WellNested.dropParagraphTags`: a well-nested text stays well nested without its paragraph tags, as
  they are whole tags and opening and closing ones go alike.
-/

namespace BlockTree

open Inline.Span (isTagChar)

/-! ### Tags of a text -/

/-- A tag with this inside, and the text after it. -/
def tagged (tag after : Text) : Text :=
  '<' :: (tag ++ '>' :: after)

/-- **The tags of a text**, without `<` and `>`: every `<` begins a tag that has neither of the two
inside. -/
inductive HasTags : Text → List Text → Prop where
  | nil : HasTags [] []
  | char {c : Char} {rest : Text} {tags : List Text} : c ≠ '<' → HasTags rest tags →
      HasTags (c :: rest) tags
  | tag {tag after : Text} {tags : List Text} : (∀ c ∈ tag, isTagChar c = true) →
      HasTags after tags → HasTags (tagged tag after) (tag :: tags)

/-- Finds the tags of a text. -/
def tags? (text : Text) : Option (List Text) :=
  match text with
  | [] => some []
  | '<' :: rest =>
    match _ : rest.dropWhile isTagChar with
    | '>' :: after => (tags? after).map (rest.takeWhile isTagChar :: ·)
    | _ => none
  | _ :: rest => tags? rest
termination_by text.length
decreasing_by
  · have hle := (List.dropWhile_suffix (l := rest) isTagChar).length_le
    simp_all only [List.length_cons]
    omega
  · simp

lemma hasTags_of_tags? {text : Text} {tags : List Text} (h : tags? text = some tags) :
    HasTags text tags := by
  fun_induction tags? text generalizing tags with
  | case1 =>
      obtain rfl : [] = tags := Option.some.inj h
      exact .nil
  | case2 rest after hd ih =>
      obtain ⟨others, ho, rfl⟩ := Option.map_eq_some_iff.mp h
      have hrest : '<' :: rest = tagged (rest.takeWhile isTagChar) after := by
        rw [tagged, ← hd, List.takeWhile_append_dropWhile]
      rw [hrest]
      exact .tag (List.all_eq_true.mp List.all_takeWhile) (ih ho)
  | case3 rest hd => cases h
  | case4 c rest hc ih => exact .char (fun h => hc h) (ih h)

lemma HasTags.tags?_eq {text : Text} {tags : List Text} (h : HasTags text tags) :
    tags? text = some tags := by
  induction h with
  | nil => rw [tags?]
  | char hc _ ih =>
      rw [tags?, ih]
      exact hc
  | @tag tag after tags htag _ ih =>
      have hdrop : (tag ++ '>' :: after).dropWhile isTagChar = '>' :: after :=
        Text.dropWhile_append_of_head? htag (by simp [isTagChar])
      have htake : (tag ++ '>' :: after).takeWhile isTagChar = tag := by
        rw [List.takeWhile_append_of_pos htag, List.takeWhile_cons_of_neg (by decide),
          List.append_nil]
      rw [tagged, tags?]
      split
      · rename_i rest h
        rw [hdrop, List.cons.injEq] at h
        rw [htake, ← h.2, ih]
        rfl
      · rename_i h
        exact absurd hdrop (h after)

lemma hasTags_iff {text : Text} {tags : List Text} : HasTags text tags ↔ tags? text = some tags :=
  ⟨HasTags.tags?_eq, hasTags_of_tags?⟩

lemma HasTags.append {text more : Text} {tags others : List Text} (h : HasTags text tags)
    (hmore : HasTags more others) : HasTags (text ++ more) (tags ++ others) := by
  induction h with
  | nil => exact hmore
  | char hc _ ih => exact .char hc ih
  | @tag tag after tags htag _ ih =>
      have happ : tagged tag after ++ more = tagged tag (after ++ more) := by simp [tagged]
      rw [happ]
      exact .tag htag ih

/-- A text without `<` has no tags. -/
lemma hasTags_of_notMem {text : Text} (h : '<' ∉ text) : HasTags text [] := by
  induction text with
  | nil => exact .nil
  | cons c rest ih =>
      rw [List.mem_cons, not_or] at h
      exact .char (Ne.symm h.1) (ih h.2)

/-! ### Names and roles of tags -/

/-- The name of a tag: what stands in front of its first blank. -/
def tagName (tag : Text) : Text :=
  tag.takeWhile (!Text.isBlank ·)

/-- The elements that have no closing tag. -/
def voidNames : List Text :=
  ["hr", "col", "br", "img"]

/-- What a tag does to the open elements. -/
inductive TagRole where
  | alone
  | opens (name : Text)
  | closes (name : Text)
  deriving DecidableEq, Repr

/-- The role of a tag: one that ends in a slash stands alone, as do those of void elements. -/
def tagRole (tag : Text) : TagRole :=
  if tag.getLast? = some '/' then .alone
  else
    match tagName tag with
    | '/' :: name => .closes name
    | name => if name ∈ voidNames then .alone else .opens name

/-- **The open elements** after these tags, the innermost first, if each closing tag closes the
element that was opened last. -/
def unclosed? (names : List Text) : List Text → Option (List Text)
  | [] => some names
  | tag :: rest =>
    match tagRole tag with
    | .alone => unclosed? names rest
    | .opens name => unclosed? (name :: names) rest
    | .closes name =>
      match names with
      | [] => none
      | last :: outer => if last = name then unclosed? outer rest else none

lemma unclosed?_append (names front back : List Text) :
    unclosed? names (front ++ back) = (unclosed? names front).bind (unclosed? · back) := by
  induction front generalizing names with
  | nil => rw [List.nil_append, unclosed?, Option.bind_some]
  | cons tag rest ih =>
      rw [List.cons_append, unclosed?, unclosed?]
      split
      · exact ih names
      · exact ih _
      · split
        · rfl
        · split
          · exact ih _
          · rfl

/-- Elements that are open around the tags stay open. -/
lemma unclosed?_frame {names left : List Text} {tags : List Text}
    (h : unclosed? names tags = some left) (outer : List Text) :
    unclosed? (names ++ outer) tags = some (left ++ outer) := by
  induction tags generalizing names with
  | nil =>
      rw [unclosed?, Option.some.injEq] at h
      rw [unclosed?, h]
  | cons tag rest ih =>
      rw [unclosed?] at h ⊢
      cases hrole : tagRole tag with
      | alone =>
          rw [hrole] at h
          exact ih h
      | opens name =>
          rw [hrole] at h
          exact ih h
      | closes name =>
          rw [hrole] at h
          cases names with
          | nil => cases h
          | cons last inner =>
              simp only [List.cons_append] at h ⊢
              split at h
              · rw [if_pos (by assumption)]
                exact ih h
              · cases h

/-! ### Well-nested texts -/

/-- **A text is well nested** if every `<` begins a complete tag and the tags match like brackets. -/
def WellNested (text : Text) : Prop :=
  ∃ tags, HasTags text tags ∧ unclosed? [] tags = some []

lemma wellNested_iff {text : Text} :
    WellNested text ↔ (tags? text).bind (unclosed? []) = some [] := by
  rw [Option.bind_eq_some_iff]
  exact exists_congr fun tags => and_congr_left fun _ => hasTags_iff

instance (text : Text) : Decidable (WellNested text) :=
  decidable_of_iff _ wellNested_iff.symm

/-- A text without `<` is well nested. -/
lemma wellNested_of_notMem {text : Text} (h : '<' ∉ text) : WellNested text :=
  ⟨[], hasTags_of_notMem h, by rw [unclosed?]⟩

lemma WellNested.append {text more : Text} (h : WellNested text) (hmore : WellNested more) :
    WellNested (text ++ more) := by
  obtain ⟨tags, ht, hu⟩ := h
  obtain ⟨others, ho, hv⟩ := hmore
  refine ⟨tags ++ others, ht.append ho, ?_⟩
  rw [unclosed?_append, hu]
  exact hv

lemma wellNested_flatten {texts : List Text} (h : ∀ text ∈ texts, WellNested text) :
    WellNested texts.flatten := by
  induction texts with
  | nil => exact wellNested_of_notMem nofun
  | cons text rest ih =>
      rw [List.forall_mem_cons] at h
      exact h.1.append (ih h.2)

/-- A tag that stands alone, in front of a well-nested text. -/
lemma WellNested.alone {tag text : Text} (htag : ∀ c ∈ tag, isTagChar c = true)
    (hrole : tagRole tag = .alone) (h : WellNested text) : WellNested (tagged tag text) := by
  obtain ⟨tags, ht, hu⟩ := h
  refine ⟨tag :: tags, .tag htag ht, ?_⟩
  rw [unclosed?, hrole]
  exact hu

/-- **An element**: a tag that opens it, a well-nested body and a tag that closes it, in front of a
well-nested text. -/
lemma WellNested.enclose {opening closing name body text : Text} (hbody : WellNested body)
    (hopening : ∀ c ∈ opening, isTagChar c = true) (hopens : tagRole opening = .opens name)
    (hclosing : ∀ c ∈ closing, isTagChar c = true) (hcloses : tagRole closing = .closes name)
    (h : WellNested text) : WellNested (tagged opening (body ++ tagged closing text)) := by
  obtain ⟨inner, hi, hu⟩ := hbody
  obtain ⟨tags, ht, hv⟩ := h
  refine ⟨opening :: (inner ++ closing :: tags), .tag hopening (hi.append (.tag hclosing ht)), ?_⟩
  have hinside : unclosed? [name] inner = some [name] := unclosed?_frame hu [name]
  rw [unclosed?, hopens]
  show unclosed? [name] (inner ++ closing :: tags) = some []
  rw [unclosed?_append, hinside, Option.bind_some, unclosed?, hcloses]
  simpa using hv

/-! ### Without paragraph tags -/

/-- A paragraph tag, opening or closing. -/
def isParagraphTag (tag : Text) : Bool :=
  tagName tag = ['p'] || tagName tag = ['/', 'p']

/-- What follows a paragraph tag of which the name has been read. -/
def paragraphRest? : Text → Option Text
  | '>' :: after => some after
  | c :: rest =>
    if Text.isBlank c then
      match rest.dropWhile (· ≠ '>') with
      | _ :: after => some after
      | [] => none
    else none
  | [] => none

lemma paragraphTag?_eq (text : Text) :
    paragraphTag? text = ((text.after? "</p").or (text.after? "<p")).bind paragraphRest? := rfl

/-- Only what stands inside the tag decides whether it starts with a lead. -/
lemma after?_append_close {lead : Text} (hlead : '>' ∉ lead) (tag after : Text) :
    (tag ++ '>' :: after).after? lead = (tag.after? lead).map (· ++ '>' :: after) := by
  induction lead generalizing tag with
  | nil => cases tag <;> simp [Text.after?]
  | cons l lead ih =>
      rw [List.mem_cons, not_or] at hlead
      cases tag with
      | nil => simp [Text.after?, hlead.1]
      | cons c tag =>
          rw [List.cons_append, Text.after?, Text.after?, ih hlead.2]
          split <;> rfl

/-- Nothing or a blank follows the name. -/
def nameEnds (rest : Text) : Bool :=
  rest.head?.all Text.isBlank

lemma paragraphRest?_append {rest : Text} (hrest : '>' ∉ rest) (after : Text) :
    paragraphRest? (rest ++ '>' :: after) = if nameEnds rest then some after else none := by
  cases rest with
  | nil => rfl
  | cons c rest =>
      rw [List.mem_cons, not_or] at hrest
      have hdrop : (rest ++ '>' :: after).dropWhile (· ≠ '>') = '>' :: after :=
        Text.dropWhile_append_of_head?
          (fun d hd => decide_eq_true (ne_of_mem_of_not_mem hd hrest.2)) (by simp)
      rw [List.cons_append, paragraphRest?, hdrop, nameEnds]
      · rfl
      · exact Ne.symm hrest.1

lemma tagName_append {name : Text} (hname : ∀ c ∈ name, Text.isBlank c = false) (rest : Text) :
    tagName (name ++ rest) = name ↔ nameEnds rest = true := by
  have hpos : ∀ c ∈ name, (!Text.isBlank c) = true := by simpa using hname
  rw [tagName, List.takeWhile_append_of_pos hpos]
  cases rest with
  | nil => simp [nameEnds]
  | cons c rest =>
      cases hc : Text.isBlank c <;> simp [nameEnds, hc]

lemma isParagraphTag_append {name : Text} (hname : name = ['p'] ∨ name = ['/', 'p'])
    (rest : Text) : isParagraphTag (name ++ rest) = nameEnds rest := by
  have hblank : ∀ c ∈ name, Text.isBlank c = false := by
    rcases hname with rfl | rfl <;> decide
  have hfirst : ∀ other : Text, tagName (name ++ rest) = other → other.head? = name.head? := by
    rintro _ rfl
    rcases hname with rfl | rfl <;> rfl
  rw [Bool.eq_iff_iff, ← tagName_append hblank, isParagraphTag, Bool.or_eq_true, decide_eq_true_eq,
    decide_eq_true_eq]
  constructor
  · rintro (h | h)
    · rcases hname with rfl | rfl
      · exact h
      · exact nomatch hfirst _ h
    · rcases hname with rfl | rfl
      · exact nomatch hfirst _ h
      · exact h
  · intro h
    rcases hname with rfl | rfl
    · exact Or.inl h
    · exact Or.inr h

/-- A paragraph tag is taken off as a whole, and no other tag is touched. -/
lemma paragraphTag?_tagged {tag : Text} (htag : '>' ∉ tag) (after : Text) :
    paragraphTag? (tagged tag after) = if isParagraphTag tag then some after else none := by
  have hlead : ∀ lead : Text, '>' ∉ lead → (tagged tag after).after? ('<' :: lead)
      = (tag.after? lead).map (· ++ '>' :: after) := by
    intro lead hlead
    rw [tagged, Text.after?, if_pos rfl, after?_append_close hlead]
  have hrest : ∀ name rest : Text, name = ['p'] ∨ name = ['/', 'p'] → tag = name ++ rest →
      paragraphRest? (rest ++ '>' :: after) = if isParagraphTag tag then some after else none := by
    rintro name rest hname rfl
    rw [isParagraphTag_append hname]
    exact paragraphRest?_append (fun hc => htag (List.mem_append_right _ hc)) after
  rw [paragraphTag?_eq]
  show (((tagged tag after).after? ['<', '/', 'p']).or
    ((tagged tag after).after? ['<', 'p'])).bind paragraphRest? = _
  rw [hlead _ (by decide), hlead _ (by decide)]
  cases hclosing : tag.after? ['/', 'p'] with
  | some rest => exact hrest _ rest (Or.inr rfl) (Text.after?_eq_some.mp hclosing)
  | none =>
      cases hopening : tag.after? ['p'] with
      | some rest => exact hrest _ rest (Or.inl rfl) (Text.after?_eq_some.mp hopening)
      | none =>
          -- The name of a tag is a lead of it, so it is neither of the two that were looked for.
          have hname : ∀ name, tag.after? name = none → tagName tag ≠ name := by
            rintro name hnone rfl
            have hsome : tag.after? (tagName tag) = some (tag.dropWhile (!Text.isBlank ·)) :=
              Text.after?_eq_some.mpr List.takeWhile_append_dropWhile.symm
            rw [hnone] at hsome
            cases hsome
          rw [isParagraphTag, decide_eq_false (hname _ hopening),
            decide_eq_false (hname _ hclosing)]
          rfl

lemma dropParagraphTags_cons {c : Char} (hc : c ≠ '<') (rest : Text) :
    dropParagraphTags (c :: rest) = c :: dropParagraphTags rest := by
  have hnone : paragraphTag? (c :: rest) = none := by
    rw [paragraphTag?_eq]
    show ((Text.after? (c :: rest) ['<', '/', 'p']).or
      (Text.after? (c :: rest) ['<', 'p'])).bind _ = _
    rw [Text.after?, if_neg hc, Text.after?, if_neg hc]
    rfl
  rw [dropParagraphTags]
  split
  · rename_i after h
    rw [hnone] at h
    cases h
  · rfl

lemma dropParagraphTags_append {front : Text} (hfront : '<' ∉ front) (rest : Text) :
    dropParagraphTags (front ++ rest) = front ++ dropParagraphTags rest := by
  induction front with
  | nil => rfl
  | cons c front ih =>
      rw [List.mem_cons, not_or] at hfront
      rw [List.cons_append, dropParagraphTags_cons (Ne.symm hfront.1), ih hfront.2,
        List.cons_append]

lemma dropParagraphTags_tagged {tag : Text} (htag : ∀ c ∈ tag, isTagChar c = true)
    (after : Text) :
    dropParagraphTags (tagged tag after)
      = if isParagraphTag tag then dropParagraphTags after
        else tagged tag (dropParagraphTags after) := by
  have hfront : '<' ∉ tag ++ ['>'] := by
    rw [List.mem_append, not_or]
    exact ⟨fun h => absurd (htag _ h) (by decide), by decide⟩
  have hkept : dropParagraphTags (tag ++ '>' :: after) = tag ++ '>' :: dropParagraphTags after := by
    rw [List.append_cons, dropParagraphTags_append hfront, List.append_assoc]
    rfl
  have hclose : '>' ∉ tag := fun h => absurd (htag _ h) (by decide)
  have hfirst := paragraphTag?_tagged hclose after
  rw [tagged] at hfirst ⊢
  rw [dropParagraphTags]
  split
  · rename_i rest h
    rw [hfirst] at h
    split at h
    · rw [if_pos (by assumption), Option.some.inj h]
    · cases h
  · rename_i h
    rw [hfirst] at h
    split at h
    · cases h
    · rw [if_neg (by assumption), hkept, tagged]

/-- Without its paragraph tags a text has the other tags. -/
lemma HasTags.dropParagraphTags {text : Text} {tags : List Text} (h : HasTags text tags) :
    HasTags (dropParagraphTags text) (tags.filter (!isParagraphTag ·)) := by
  induction h with
  | nil =>
      rw [BlockTree.dropParagraphTags]
      exact .nil
  | char hc _ ih =>
      rw [dropParagraphTags_cons hc]
      exact .char hc ih
  | @tag tag after tags htag _ ih =>
      rw [dropParagraphTags_tagged htag]
      cases hp : isParagraphTag tag with
      | true => rwa [List.filter_cons_of_neg (by simp [hp]), if_pos rfl]
      | false =>
          rw [List.filter_cons_of_pos (by simp [hp]), if_neg (by decide)]
          exact .tag htag ih

lemma tagRole_eq_opens {tag name : Text} (h : tagRole tag = .opens name) :
    tagName tag = name ∧ ∀ rest, name ≠ '/' :: rest := by
  rw [tagRole] at h
  split at h
  · cases h
  · split at h
    · cases h
    · rename_i hslash
      split at h
      · cases h
      · rw [← TagRole.opens.inj h]
        exact ⟨rfl, hslash⟩

lemma tagRole_eq_closes {tag name : Text} (h : tagRole tag = .closes name) :
    tagName tag = '/' :: name := by
  rw [tagRole] at h
  split at h
  · cases h
  · split at h
    · rename_i rest hname
      rw [hname, TagRole.closes.inj h]
    · split at h <;> cases h

lemma isParagraphTag_of_opens {tag name : Text} (h : tagRole tag = .opens name) :
    isParagraphTag tag = true ↔ name = ['p'] := by
  obtain ⟨rfl, hslash⟩ := tagRole_eq_opens h
  simp [isParagraphTag, hslash]

lemma isParagraphTag_of_closes {tag name : Text} (h : tagRole tag = .closes name) :
    isParagraphTag tag = true ↔ name = ['p'] := by
  simp [isParagraphTag, tagRole_eq_closes h]

/-- **Paragraph tags go in pairs**: without them the elements that are open are the others. -/
lemma unclosed?_filter {names left tags : List Text} (h : unclosed? names tags = some left) :
    unclosed? (names.filter (· ≠ ['p'])) (tags.filter (!isParagraphTag ·))
      = some (left.filter (· ≠ ['p'])) := by
  induction tags generalizing names with
  | nil =>
      rw [unclosed?, Option.some.injEq] at h
      rw [List.filter_nil, unclosed?, h]
  | cons tag rest ih =>
      rw [unclosed?] at h
      cases hrole : tagRole tag with
      | alone =>
          rw [hrole] at h
          cases hp : isParagraphTag tag with
          | true =>
              rw [List.filter_cons_of_neg (by simp [hp])]
              exact ih h
          | false =>
              rw [List.filter_cons_of_pos (by simp [hp]), unclosed?, hrole]
              exact ih h
      | opens name =>
          rw [hrole] at h
          have hrest := ih h
          by_cases hname : name = ['p']
          · have hp := (isParagraphTag_of_opens hrole).mpr hname
            rw [List.filter_cons_of_neg (by simp [hp])]
            rwa [List.filter_cons_of_neg (by simp [hname])] at hrest
          · have hp := mt (isParagraphTag_of_opens hrole).mp hname
            rw [List.filter_cons_of_pos (by simp [hp]), unclosed?, hrole]
            rwa [List.filter_cons_of_pos (by simp [hname])] at hrest
      | closes name =>
          rw [hrole] at h
          cases names with
          | nil => cases h
          | cons last outer =>
              simp only at h
              split at h
              · rename_i hlast
                subst hlast
                -- The element was opened under this name, so both of its tags go or both stay.
                have hrest := ih h
                by_cases hname : last = ['p']
                · have hp := (isParagraphTag_of_closes hrole).mpr hname
                  rwa [List.filter_cons_of_neg (by simp [hname]),
                    List.filter_cons_of_neg (by simp [hp])]
                · have hp := mt (isParagraphTag_of_closes hrole).mp hname
                  rw [List.filter_cons_of_pos (by simp [hname]),
                    List.filter_cons_of_pos (by simp [hp]), unclosed?, hrole]
                  simpa only [if_pos] using hrest
              · cases h

/-- **A well-nested text stays well nested** without its paragraph tags. -/
lemma WellNested.dropParagraphTags {text : Text} (h : WellNested text) :
    WellNested (dropParagraphTags text) := by
  obtain ⟨tags, ht, hu⟩ := h
  exact ⟨_, ht.dropParagraphTags, unclosed?_filter hu⟩

end BlockTree
