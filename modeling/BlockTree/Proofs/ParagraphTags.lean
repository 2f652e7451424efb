import BlockTree.Proofs.Nesting

/-!
Paragraph tags in a text, and what taking them out in a single pass leaves.

* `BeginsParagraphTag` and `HasParagraphTag`: a paragraph tag at the start of a text, or anywhere in
  it. What is inside may hold anything but a `>`.
* `dropParagraphTags_eq_self`: the pass does not change texts without paragraph tags.
* `dropParagraphTags_append_of_ends`: two texts are treated one by one, unless a tag begins in the
  first and goes on in the second. None does where the first ends in `>` (`dropParagraphTags_close`) or
  leaves no paragraph tag open (`dropParagraphTags_append_tag`).
* `hasParagraphTag_dropParagraphTags_iff`: a paragraph tag that is left was put together from the
  start of one and what stood behind a tag that was taken out.
-/

namespace BlockTree

/-! ### Paragraph tags -/

/-- **A text begins with a paragraph tag**: with `<p` or `</p`, a blank and anything else unless
nothing follows the name, and the first `>`. -/
def BeginsParagraphTag (text : Text) : Prop :=
  ∃ tag after, text = tagged tag after ∧ '>' ∉ tag ∧ isParagraphTag tag = true

/-- **A paragraph tag stands in a text**. -/
def HasParagraphTag (text : Text) : Prop :=
  ∃ rest, rest <:+ text ∧ BeginsParagraphTag rest

/-- A paragraph tag has the name of the element, or that with a slash, and a blank in front of
whatever else there is. -/
lemma isParagraphTag_iff {tag : Text} :
    isParagraphTag tag = true
      ↔ ∃ name rest, tag = name ++ rest ∧ (name = ['p'] ∨ name = ['/', 'p'])
          ∧ nameEnds rest = true := by
  constructor
  · intro h
    have hends : nameEnds (tag.dropWhile (!Text.isBlank ·)) = true := by
      rw [nameEnds, Option.all_eq_true]
      intro c hc
      have hfirst := List.head?_dropWhile_not (!Text.isBlank ·) tag
      rw [hc] at hfirst
      simpa using hfirst
    refine ⟨tagName tag, _, List.takeWhile_append_dropWhile.symm, ?_, hends⟩
    simpa [isParagraphTag] using h
  · rintro ⟨name, rest, rfl, hname, hends⟩
    rw [isParagraphTag_append hname, hends]

lemma paragraphRest?_eq_some {rest after : Text} (h : paragraphRest? rest = some after) :
    ∃ inside, rest = inside ++ '>' :: after ∧ '>' ∉ inside ∧ nameEnds inside = true := by
  unfold paragraphRest? at h
  split at h
  · obtain rfl := Option.some.inj h
    exact ⟨[], rfl, List.not_mem_nil, rfl⟩
  · rename_i c rest hc
    split at h
    · rename_i hblank
      split at h
      · rename_i d _ hdrop
        obtain rfl := Option.some.inj h
        obtain rfl : d = '>' := by
          have hfirst := List.head?_dropWhile_not (· ≠ '>') rest
          rw [hdrop] at hfirst
          simpa using hfirst
        refine ⟨c :: rest.takeWhile (· ≠ '>'), ?_, ?_, hblank⟩
        · rw [List.cons_append, ← hdrop, List.takeWhile_append_dropWhile]
        · rw [List.mem_cons, not_or]
          refine ⟨Ne.symm hc, fun hmem => ?_⟩
          simpa using List.all_eq_true.mp List.all_takeWhile '>' hmem
      · cases h
    · cases h
  · cases h

/-- **What is taken off** at the start of a text is a paragraph tag. -/
lemma paragraphTag?_eq_some {text after : Text} :
    paragraphTag? text = some after
      ↔ ∃ tag, text = tagged tag after ∧ '>' ∉ tag ∧ isParagraphTag tag = true := by
  constructor
  · intro h
    rw [paragraphTag?_eq, Option.bind_eq_some_iff] at h
    obtain ⟨rest, hlead, hrest⟩ := h
    obtain ⟨inside, rfl, hclose, hends⟩ := paragraphRest?_eq_some hrest
    have hname : ∃ name : Text, text = '<' :: (name ++ (inside ++ '>' :: after))
        ∧ (name = ['p'] ∨ name = ['/', 'p']) := by
      rcases Option.or_eq_some_iff.mp hlead with hclosing | ⟨-, hopening⟩
      · exact ⟨['/', 'p'], Text.after?_eq_some.mp hclosing, Or.inr rfl⟩
      · exact ⟨['p'], Text.after?_eq_some.mp hopening, Or.inl rfl⟩
    obtain ⟨name, htext, hname⟩ := hname
    refine ⟨name ++ inside, ?_, ?_, isParagraphTag_iff.mpr ⟨name, inside, rfl, hname, hends⟩⟩
    · rw [htext, tagged, List.append_assoc]
    · rw [List.mem_append, not_or]
      exact ⟨by rcases hname with rfl | rfl <;> decide, hclose⟩
  · rintro ⟨tag, rfl, hclose, hparagraph⟩
    rw [paragraphTag?_tagged hclose, if_pos hparagraph]

lemma beginsParagraphTag_iff {text : Text} :
    BeginsParagraphTag text ↔ (paragraphTag? text).isSome = true := by
  rw [Option.isSome_iff_exists, BeginsParagraphTag, exists_comm]
  exact exists_congr fun after => paragraphTag?_eq_some.symm

instance (text : Text) : Decidable (BeginsParagraphTag text) :=
  decidable_of_iff _ beginsParagraphTag_iff.symm

lemma BeginsParagraphTag.append {text : Text} (h : BeginsParagraphTag text) (more : Text) :
    BeginsParagraphTag (text ++ more) := by
  obtain ⟨tag, after, rfl, hclose, hparagraph⟩ := h
  exact ⟨tag, after ++ more, by simp [tagged], hclose, hparagraph⟩

/-- Whether a text begins with a paragraph tag is decided at its first `>`. -/
lemma beginsParagraphTag_close {inside : Text} (h : '>' ∉ inside) (after : Text) :
    BeginsParagraphTag (inside ++ '>' :: after)
      ↔ ∃ tag, inside = '<' :: tag ∧ isParagraphTag tag = true := by
  constructor
  · rintro ⟨tag, rest, htext, hclose, hparagraph⟩
    cases inside with
    | nil => exact absurd (List.cons.inj htext).1 (by decide)
    | cons c inside =>
        obtain ⟨rfl, hrest⟩ := List.cons.inj htext
        rw [List.mem_cons, not_or] at h
        have hcut : Text.cut? '>' (tag ++ '>' :: rest) = some (inside, after) :=
          hrest ▸ Text.cut?_append h.2 after
        rw [Text.cut?_append hclose] at hcut
        obtain ⟨rfl, -⟩ := Prod.mk_inj.mp (Option.some.inj hcut)
        exact ⟨tag, rfl, hparagraph⟩
  · rintro ⟨tag, rfl, hparagraph⟩
    rw [List.mem_cons, not_or] at h
    exact ⟨tag, after, rfl, h.2, hparagraph⟩

lemma beginsParagraphTag_append_iff {text : Text} (h : '>' ∈ text) (more : Text) :
    BeginsParagraphTag (text ++ more) ↔ BeginsParagraphTag text := by
  obtain ⟨inside, after, rfl, hclose⟩ := List.eq_append_cons_of_mem h
  rw [List.append_assoc, List.cons_append, beginsParagraphTag_close hclose,
    beginsParagraphTag_close hclose]

lemma not_beginsParagraphTag_nil : ¬ BeginsParagraphTag [] :=
  fun ⟨_, _, h, _⟩ => nomatch h

lemma hasParagraphTag_cons {c : Char} {rest : Text} :
    HasParagraphTag (c :: rest) ↔ BeginsParagraphTag (c :: rest) ∨ HasParagraphTag rest := by
  simp only [HasParagraphTag, List.suffix_cons_iff, or_and_right, exists_or, exists_eq_left]

lemma not_hasParagraphTag_nil : ¬ HasParagraphTag [] := by
  rintro ⟨rest, hsuffix, hbegins⟩
  rw [List.suffix_nil.mp hsuffix] at hbegins
  exact not_beginsParagraphTag_nil hbegins

instance decidableHasParagraphTag : (text : Text) → Decidable (HasParagraphTag text)
  | [] => isFalse not_hasParagraphTag_nil
  | _ :: rest =>
    have := decidableHasParagraphTag rest
    decidable_of_iff _ hasParagraphTag_cons.symm

lemma HasParagraphTag.append {text : Text} (h : HasParagraphTag text) (more : Text) :
    HasParagraphTag (text ++ more) := by
  obtain ⟨rest, ⟨before, rfl⟩, hbegins⟩ := h
  exact ⟨rest ++ more, ⟨before, by rw [List.append_assoc]⟩, hbegins.append more⟩

/-! ### The pass -/

/-- A paragraph tag at the start is taken out. -/
lemma dropParagraphTags_of_tag {tag : Text} (hclose : '>' ∉ tag)
    (hparagraph : isParagraphTag tag = true) (after : Text) :
    dropParagraphTags (tagged tag after) = dropParagraphTags after := by
  have hfirst : paragraphTag? (tagged tag after) = some after :=
    paragraphTag?_eq_some.mpr ⟨tag, rfl, hclose, hparagraph⟩
  rw [tagged] at hfirst ⊢
  rw [dropParagraphTags]
  split
  · rename_i rest h
    rw [hfirst] at h
    rw [Option.some.inj h]
  · rename_i h
    rw [hfirst] at h
    cases h

/-- A character that begins no paragraph tag is kept. -/
lemma dropParagraphTags_of_not_begins {c : Char} {rest : Text}
    (h : ¬ BeginsParagraphTag (c :: rest)) :
    dropParagraphTags (c :: rest) = c :: dropParagraphTags rest := by
  rw [dropParagraphTags]
  split
  · rename_i after hsome
    exact absurd (beginsParagraphTag_iff.mpr (by rw [hsome]; rfl)) h
  · rfl

/-- Induction along the pass: over the characters that are kept and the tags that are taken out. -/
@[elab_as_elim]
lemma dropParagraphTags_ind {P : Text → Prop} (nil : P [])
    (kept : ∀ c rest, ¬ BeginsParagraphTag (c :: rest) → P rest → P (c :: rest))
    (tag : ∀ tag after, '>' ∉ tag → isParagraphTag tag = true → P after → P (tagged tag after))
    (text : Text) : P text := by
  induction hlength : text.length using Nat.strong_induction_on generalizing text with
  | _ n ih =>
      cases text with
      | nil => exact nil
      | cons c rest =>
          by_cases h : BeginsParagraphTag (c :: rest)
          · obtain ⟨inside, after, htext, hclose, hparagraph⟩ := h
            rw [htext] at hlength ⊢
            refine tag inside after hclose hparagraph (ih after.length ?_ after rfl)
            simp [← hlength, tagged]
            omega
          · exact kept c rest h (ih rest.length (by simp [← hlength]) rest rfl)

/-- **Texts without paragraph tags** stay as they are. -/
lemma dropParagraphTags_eq_self {text : Text} (h : ¬ HasParagraphTag text) :
    dropParagraphTags text = text := by
  induction text with
  | nil => rw [dropParagraphTags]
  | cons c rest ih =>
      rw [hasParagraphTag_cons, not_or] at h
      rw [dropParagraphTags_of_not_begins h.1, ih h.2]

/-- The first paragraph tag of a text is taken out, and what is in front of it stays. -/
lemma exists_first_paragraphTag {text : Text} (h : HasParagraphTag text) :
    ∃ front tag after, text = front ++ tagged tag after ∧ '>' ∉ tag ∧ isParagraphTag tag = true
      ∧ dropParagraphTags text = front ++ dropParagraphTags after := by
  induction text with
  | nil => exact absurd h not_hasParagraphTag_nil
  | cons c rest ih =>
      by_cases hbegins : BeginsParagraphTag (c :: rest)
      · obtain ⟨tag, after, htext, hclose, hparagraph⟩ := hbegins
        refine ⟨[], tag, after, htext, hclose, hparagraph, ?_⟩
        rw [htext, dropParagraphTags_of_tag hclose hparagraph, List.nil_append]
      · have hrest := (hasParagraphTag_cons.mp h).resolve_left hbegins
        obtain ⟨front, tag, after, rfl, hclose, hparagraph, hdrop⟩ := ih hrest
        refine ⟨c :: front, tag, after, rfl, hclose, hparagraph, ?_⟩
        rw [dropParagraphTags_of_not_begins hbegins, hdrop, List.cons_append]

/-! ### Two texts, one behind the other -/

/-- **Two texts are treated one by one** if no paragraph tag begins in the first and goes on in the
second. -/
lemma dropParagraphTags_append_of_ends {front back : Text}
    (h : ∀ rest, rest <:+ front → rest ≠ [] → BeginsParagraphTag (rest ++ back) →
      BeginsParagraphTag rest) :
    dropParagraphTags (front ++ back) = dropParagraphTags front ++ dropParagraphTags back := by
  induction front using dropParagraphTags_ind with
  | nil => rw [dropParagraphTags, List.nil_append, List.nil_append]
  | kept c rest hkept ih =>
      have hnot : ¬ BeginsParagraphTag (c :: (rest ++ back)) := fun hbegins =>
        hkept (h (c :: rest) List.suffix_rfl (List.cons_ne_nil c rest) hbegins)
      have hrest := ih fun inner hinner => h inner (hinner.trans (List.suffix_cons c rest))
      rw [List.cons_append, dropParagraphTags_of_not_begins hnot,
        dropParagraphTags_of_not_begins hkept, hrest, List.cons_append]
  | tag tag after hclose hparagraph ih =>
      have hsuffix : after <:+ tagged tag after := ⟨'<' :: (tag ++ ['>']), by simp [tagged]⟩
      have hafter := ih fun inner hinner => h inner (hinner.trans hsuffix)
      have happend : tagged tag after ++ back = tagged tag (after ++ back) := by simp [tagged]
      rw [happend, dropParagraphTags_of_tag hclose hparagraph,
        dropParagraphTags_of_tag hclose hparagraph, hafter]

/-- What follows a `>` does not matter to what is in front of it. -/
lemma dropParagraphTags_close (front back : Text) :
    dropParagraphTags (front ++ '>' :: back)
      = dropParagraphTags (front ++ ['>']) ++ dropParagraphTags back := by
  rw [List.append_cons]
  refine dropParagraphTags_append_of_ends fun rest hrest hne hbegins => ?_
  have hlast : '>' ∈ rest := by
    obtain ⟨before, hbefore⟩ := hrest
    have hlast := congrArg List.getLast? hbefore
    rw [List.getLast?_append_of_ne_nil _ hne, List.getLast?_concat] at hlast
    exact List.mem_of_getLast? hlast
  exact (beginsParagraphTag_append_iff hlast back).mp hbegins

/-- **An open paragraph tag**: behind its name there is a blank, but no `>`. -/
def IsOpenParagraphTag (text : Text) : Prop :=
  ∃ tag, text = '<' :: tag ∧ '>' ∉ tag ∧ isParagraphTag tag = true ∧ ∃ c ∈ tag, Text.isBlank c = true

/-- **A text leaves a paragraph tag open** if it ends in an open one. -/
def LeavesParagraphTagOpen (text : Text) : Prop :=
  ∃ rest, rest <:+ text ∧ IsOpenParagraphTag rest

/-- Where every `<` begins a complete tag, no tag is left open. -/
lemma HasTags.close_mem_of_suffix {text : Text} {tags : List Text} (h : HasTags text tags)
    {rest : Text} (hrest : '<' :: rest <:+ text) : '>' ∈ rest := by
  induction h with
  | nil => exact absurd (List.suffix_nil.mp hrest) (List.cons_ne_nil _ _)
  | char hc _ ih =>
      rcases List.suffix_cons_iff.mp hrest with heq | hrest
      · exact absurd (List.cons.inj heq).1.symm hc
      · exact ih hrest
  | @tag tag after _ _ _ ih =>
      have hclose : '>' :: after <:+ tagged tag after := ⟨'<' :: tag, rfl⟩
      rcases List.suffix_or_suffix_of_suffix hrest hclose with hrest | hrest
      · rcases List.suffix_cons_iff.mp hrest with heq | hrest
        · exact absurd (List.cons.inj heq).1 (by decide)
        · exact ih hrest
      · have hmem : '>' ∈ '<' :: rest := hrest.subset List.mem_cons_self
        exact (List.mem_cons.mp hmem).resolve_left (by decide)

lemma HasTags.not_leavesParagraphTagOpen {text : Text} {tags : List Text} (h : HasTags text tags) :
    ¬ LeavesParagraphTagOpen text :=
  fun ⟨_, hrest, _, htext, hclose, _⟩ => hclose (h.close_mem_of_suffix (htext ▸ hrest))

/-- Behind a blank it is settled whether a tag is a paragraph tag. -/
lemma isParagraphTag_append_of_blank {tag : Text} (h : ∃ c ∈ tag, Text.isBlank c = true)
    (more : Text) : isParagraphTag (tag ++ more) = isParagraphTag tag := by
  obtain ⟨c, hc, hblank⟩ := h
  rcases Text.run_cases (!Text.isBlank ·) tag with hall | ⟨run, d, after, rfl, hrun, hd⟩
  · simpa [hblank] using hall c hc
  · rw [List.append_assoc, List.cons_append]
    simp only [isParagraphTag, tagName, Text.takeWhile_run hrun hd]

/-- What stands in front of a `<` inside a paragraph tag is an open one. -/
lemma isOpenParagraphTag_of_append {front back : Text} (hclose : '>' ∉ front)
    (h : isParagraphTag (front ++ '<' :: back) = true) : IsOpenParagraphTag ('<' :: front) := by
  by_cases hblank : ∃ c ∈ front, Text.isBlank c = true
  · rw [isParagraphTag_append_of_blank hblank] at h
    exact ⟨front, rfl, hclose, h, hblank⟩
  · -- Without a blank in front of it, the `<` would be a part of the name.
    push Not at hblank
    have hall : ∀ c ∈ front, (!Text.isBlank c) = true := by simpa using hblank
    have hname : '<' ∈ tagName (front ++ '<' :: back) := by
      rw [tagName, List.takeWhile_append_of_pos hall, List.takeWhile_cons_of_pos (by decide)]
      exact List.mem_append_right _ List.mem_cons_self
    rw [isParagraphTag, Bool.or_eq_true, decide_eq_true_eq, decide_eq_true_eq] at h
    rcases h with h | h
    · rw [h] at hname
      exact absurd hname (by decide)
    · rw [h] at hname
      exact absurd hname (by decide)

/-- A `<` behind a text is treated on its own if the text leaves no paragraph tag open. -/
lemma dropParagraphTags_append_tag {front : Text} (h : ¬ LeavesParagraphTagOpen front)
    (rest : Text) :
    dropParagraphTags (front ++ '<' :: rest)
      = dropParagraphTags front ++ dropParagraphTags ('<' :: rest) := by
  refine dropParagraphTags_append_of_ends fun inner hinner hne hbegins => ?_
  by_cases hclose : '>' ∈ inner
  · exact (beginsParagraphTag_append_iff hclose _).mp hbegins
  · obtain ⟨tag, after, htext, htag, hparagraph⟩ := hbegins
    cases inner with
    | nil => exact absurd rfl hne
    | cons c inner =>
        obtain ⟨rfl, htail⟩ := List.cons.inj htext
        rw [List.mem_cons, not_or] at hclose
        rcases List.append_eq_append_iff.mp htail with ⟨more, rfl, hmore⟩ | ⟨more, rfl, hmore⟩
        · cases more with
          | nil => exact absurd (List.cons.inj hmore).1 (by decide)
          | cons d more =>
              obtain ⟨rfl, -⟩ := List.cons.inj hmore
              exact absurd ⟨_, hinner, isOpenParagraphTag_of_append hclose.2 hparagraph⟩ h
        · cases more with
          | nil => exact absurd (List.cons.inj hmore).1 (by decide)
          | cons d more =>
              obtain ⟨rfl, -⟩ := List.cons.inj hmore
              exact absurd (List.mem_append_right tag List.mem_cons_self) hclose.2

/-- An open paragraph tag ends with the tag behind it. -/
lemma dropParagraphTags_of_isOpen {text tag : Text} (h : IsOpenParagraphTag text) (htag : '>' ∉ tag)
    (after : Text) : dropParagraphTags (text ++ tagged tag after) = dropParagraphTags after := by
  obtain ⟨inside, rfl, hclose, hparagraph, hblank⟩ := h
  have hname : isParagraphTag (inside ++ '<' :: tag) = true := by
    rw [isParagraphTag_append_of_blank hblank, hparagraph]
  have htext : '<' :: inside ++ tagged tag after = tagged (inside ++ '<' :: tag) after := by
    simp [tagged]
  rw [htext, dropParagraphTags_of_tag (by simp [hclose, htag]) hname]

/-! ### What the pass leaves -/

/-- How a paragraph tag can begin, in front of the character that ends its name. -/
def paragraphStarts : List Text :=
  ["<", "</", "<p", "</p"]

/-- **A paragraph tag is put together** by the pass: the start of one stands in front of a paragraph
tag that is taken out, and goes on to a whole one with what is left behind that. -/
def JoinsParagraphTag (text : Text) : Prop :=
  ∃ front start tag after, text = front ++ (start ++ tagged tag after) ∧ start ∈ paragraphStarts
    ∧ '>' ∉ tag ∧ isParagraphTag tag = true
    ∧ dropParagraphTags text = dropParagraphTags front ++ (start ++ dropParagraphTags after)
    ∧ BeginsParagraphTag (start ++ dropParagraphTags after)

/-- A text that would begin a paragraph tag if it went on in another way has only got to the start
of one. -/
lemma mem_paragraphStarts {kept more back : Text} (h : BeginsParagraphTag ('<' :: (kept ++ more)))
    (hback : '>' ∈ back) (hnot : ¬ BeginsParagraphTag ('<' :: (kept ++ back))) :
    '<' :: kept ∈ paragraphStarts := by
  obtain ⟨tag, after, htext, -, hparagraph⟩ := h
  obtain ⟨name, rest, rfl, hname, hends⟩ := isParagraphTag_iff.mp hparagraph
  have hstarts : ∀ start ∈ name.inits, '<' :: start ∈ paragraphStarts := by
    rcases hname with rfl | rfl <;> decide
  have hkept : kept ++ more = name ++ (rest ++ '>' :: after) := by
    rw [(List.cons.inj htext).2, List.append_assoc]
  rcases List.append_eq_append_iff.mp hkept with ⟨left, hleft, -⟩ | ⟨left, rfl, hleft⟩
  · exact hstarts kept ((List.mem_inits kept name).mpr ⟨left, hleft.symm⟩)
  · cases left with
    | nil =>
        rw [List.append_nil]
        exact hstarts name ((List.mem_inits name name).mpr (List.prefix_refl name))
    | cons d left =>
        -- The character behind the name has been read, and a `>` follows in either text.
        exfalso
        have hd : Text.isBlank d = true ∨ d = '>' := by
          cases rest with
          | nil => exact Or.inr (List.cons.inj hleft).1.symm
          | cons c rest =>
              obtain ⟨rfl, -⟩ := List.cons.inj hleft
              exact Or.inl hends
        obtain ⟨inside, last, hinside, hclose⟩ :=
          List.eq_append_cons_of_mem (List.mem_append_right (d :: left) hback)
        have hinsideEnds : nameEnds inside = true := by
          cases inside with
          | nil => rfl
          | cons c inside =>
              obtain ⟨rfl, -⟩ := List.cons.inj hinside
              refine hd.resolve_right ?_
              rintro rfl
              exact hclose List.mem_cons_self
        refine hnot ⟨name ++ inside, last, ?_, ?_, isParagraphTag_iff.mpr
          ⟨name, inside, rfl, hname, hinsideEnds⟩⟩
        · rw [List.append_assoc, hinside, tagged, List.append_assoc]
        · rw [List.mem_append, not_or]
          exact ⟨by rcases hname with rfl | rfl <;> decide, hclose⟩

/-- **What the pass leaves** has a paragraph tag exactly if one was put together. -/
theorem hasParagraphTag_dropParagraphTags_iff {text : Text} :
    HasParagraphTag (dropParagraphTags text) ↔ JoinsParagraphTag text := by
  constructor
  · intro h
    induction text using dropParagraphTags_ind with
    | nil =>
        rw [dropParagraphTags] at h
        exact absurd h not_hasParagraphTag_nil
    | kept c rest hkept ih =>
        rw [dropParagraphTags_of_not_begins hkept, hasParagraphTag_cons] at h
        rcases h with hbegins | hrest
        · -- Only a tag that was taken out can have kept `c` from beginning this one before.
          have hhas : HasParagraphTag rest := by
            by_contra hnone
            rw [dropParagraphTags_eq_self hnone] at hbegins
            exact hkept hbegins
          obtain ⟨front, tag, after, rfl, hclose, hparagraph, hdrop⟩ :=
            exists_first_paragraphTag hhas
          rw [hdrop] at hbegins
          obtain rfl : c = '<' := by
            obtain ⟨_, _, htext, -, -⟩ := hbegins
            exact (List.cons.inj htext).1
          have hstart := mem_paragraphStarts hbegins (by simp [tagged]) hkept
          refine ⟨[], '<' :: front, tag, after, rfl, hstart, hclose, hparagraph, ?_, hbegins⟩
          rw [dropParagraphTags_of_not_begins hkept, hdrop, dropParagraphTags]
          rfl
        · obtain ⟨front, start, tag, after, rfl, hstart, hclose, hparagraph, hdrop, hbegins⟩ :=
            ih hrest
          have hfront : ¬ BeginsParagraphTag (c :: front) := fun hbegins =>
            hkept (hbegins.append (start ++ tagged tag after))
          refine ⟨c :: front, start, tag, after, rfl, hstart, hclose, hparagraph, ?_, hbegins⟩
          rw [dropParagraphTags_of_not_begins hkept, hdrop, dropParagraphTags_of_not_begins hfront,
            List.cons_append]
    | tag taken after htaken hname ih =>
        rw [dropParagraphTags_of_tag htaken hname] at h
        obtain ⟨front, start, tag, after, rfl, hstart, hclose, hparagraph, hdrop, hbegins⟩ := ih h
        refine ⟨tagged taken front, start, tag, after, by simp [tagged], hstart, hclose, hparagraph,
          ?_, hbegins⟩
        rw [dropParagraphTags_of_tag htaken hname, dropParagraphTags_of_tag htaken hname, hdrop]
  · rintro ⟨front, start, tag, after, -, -, -, -, hdrop, hbegins⟩
    rw [hdrop]
    exact ⟨_, List.suffix_append _ _, hbegins⟩

end BlockTree
