import BlockTree.Proofs.EmphasisNesting

/-!
What emphasis leaves of a text.

* `dropEmphasisTags`: a text without the tags of emphasis; `bareText`: without the characters of
  marks as well.
* `Emphasised.bareText_append`: an emphasised text is bared on its own, whatever follows it.
* `Pass.Wraps.bareText_eq`: a pass takes out marks and puts in tags, and leaves all else where it is.
* `Pass.isPaired_wrapRuns`: it puts in as many opening as closing tags of each element.
* `formatText_content`: so running text holds what the escaped text holds, in the same order, with
  as many opening as closing tags of each element between.
-/

namespace BlockTree.Inline

open Entity (isInert)

/-! ### Bare texts -/

/-- What follows a tag of emphasis at the start of a text. -/
def afterEmphasisTag? (text : Text) : Option Text :=
  emphasisTags.findSome? fun tag => text.after? tag.source

lemma afterEmphasisTag?_length {text after : Text} (h : afterEmphasisTag? text = some after) :
    after.length < text.length := by
  obtain ⟨tag, -, hafter⟩ := List.exists_of_findSome?_eq_some h
  have hsource : 0 < tag.source.length := Nat.succ_pos _
  rw [Text.after?_eq_some.mp hafter, List.length_append]
  omega

/-- **The text without the tags of emphasis** in it. -/
def dropEmphasisTags (text : Text) : Text :=
  match text with
  | [] => []
  | c :: rest =>
    match _ : afterEmphasisTag? (c :: rest) with
    | some after => dropEmphasisTags after
    | none => c :: dropEmphasisTags rest
termination_by text.length
decreasing_by
  · exact afterEmphasisTag?_length (by assumption)
  · simp

/-- **The bare text**: without the tags of emphasis and the characters of marks. -/
def bareText (text : Text) : Text :=
  (dropEmphasisTags text).filter (!isMarkChar ·)

lemma dropEmphasisTags_of_some {text after : Text} (h : afterEmphasisTag? text = some after) :
    dropEmphasisTags text = dropEmphasisTags after := by
  cases text with
  | nil => exact absurd (afterEmphasisTag?_length h) (Nat.not_lt_zero _)
  | cons c text =>
      rw [dropEmphasisTags]
      split
      · rename_i hafter
        rw [Option.some.inj (hafter.symm.trans h)]
      · rename_i hafter
        cases hafter.symm.trans h

/-- No tag begins with an inert character. -/
lemma dropEmphasisTags_cons {c : Char} (hc : isInert c = true) (rest : Text) :
    dropEmphasisTags (c :: rest) = c :: dropEmphasisTags rest := by
  have hnone : afterEmphasisTag? (c :: rest) = none := by
    rw [afterEmphasisTag?, List.findSome?_eq_none_iff]
    intro tag _
    exact if_neg (lt_ne_of_isInert hc)
  rw [dropEmphasisTags]
  split
  · rename_i hafter
    cases hafter.symm.trans hnone
  · rfl

lemma eq_of_source_isPrefix : ∀ tag ∈ emphasisTags, ∀ other ∈ emphasisTags,
    tag.source <+: other.source → tag = other := by
  decide +kernel

lemma dropEmphasisTags_tag {tag : Tag} (htag : tag ∈ emphasisTags) (rest : Text) :
    dropEmphasisTags (tag.source ++ rest) = dropEmphasisTags rest := by
  refine dropEmphasisTags_of_some ?_
  cases hfound : afterEmphasisTag? (tag.source ++ rest) with
  | none =>
      have hnone := List.findSome?_eq_none_iff.mp hfound tag htag
      rw [Text.after?_eq_some.mpr rfl] at hnone
      cases hnone
  | some after =>
      obtain ⟨other, hother, hafter⟩ := List.exists_of_findSome?_eq_some hfound
      have hsource := Text.after?_eq_some.mp hafter
      have hsame : other = tag := by
        rcases List.prefix_or_prefix_of_prefix (List.prefix_append tag.source rest)
          (hsource ▸ List.prefix_append other.source after) with h | h
        · exact (eq_of_source_isPrefix tag htag other hother h).symm
        · exact eq_of_source_isPrefix other hother tag htag h
      rw [hsame] at hsource
      rw [List.append_cancel_left hsource]

/-! ### Bare texts in parts -/

lemma bareText_nil : bareText [] = [] := by
  rw [bareText, dropEmphasisTags, List.filter_nil]

lemma bareText_cons {c : Char} (hc : isInert c = true) (rest : Text) :
    bareText (c :: rest) = [c].filter (!isMarkChar ·) ++ bareText rest := by
  rw [bareText, dropEmphasisTags_cons hc, ← List.singleton_append, List.filter_append, ← bareText]

lemma bareText_tag {tag : Tag} (htag : tag ∈ emphasisTags) (rest : Text) :
    bareText (tag.source ++ rest) = bareText rest := by
  rw [bareText, dropEmphasisTags_tag htag, ← bareText]

/-- **An emphasised text is bared on its own**, whatever follows it. -/
lemma Emphasised.bareText_append {front : Text} (h : Emphasised front) (back : Text) :
    bareText (front ++ back) = bareText front ++ bareText back := by
  induction h with
  | nil => rw [bareText_nil, List.nil_append, List.nil_append]
  | char hc _ ih =>
      rw [List.cons_append, bareText_cons hc, bareText_cons hc, ih, List.append_assoc]
  | tag htag _ ih => rw [List.append_assoc, bareText_tag htag, bareText_tag htag, ih]

lemma dropEmphasisTags_of_inert {text : Text} (h : ∀ c ∈ text, isInert c = true) :
    dropEmphasisTags text = text := by
  induction text with
  | nil => rw [dropEmphasisTags]
  | cons c text ih =>
      rw [List.forall_mem_cons] at h
      rw [dropEmphasisTags_cons h.1, ih h.2]

lemma isInert_of_isMarkChar {c : Char} (h : isMarkChar c = true) : isInert c = true := by
  simp only [isMarkChar, Bool.or_eq_true, decide_eq_true_eq] at h
  rcases h with (rfl | rfl) | rfl <;> decide

/-- Nothing is left of a mark. -/
lemma bareText_mark {mark : Text} (h : ∀ c ∈ mark, isMarkChar c = true) : bareText mark = [] := by
  rw [bareText, dropEmphasisTags_of_inert fun c hc => isInert_of_isMarkChar (h c hc),
    List.filter_eq_nil_iff]
  exact fun c hc => by simp [h c hc]

/-! ### Passes -/

/-- An element of emphasis around a body leaves the bare text as it is. -/
lemma bareText_wrap {pass : Pass} {kind : EmphasisKind} (hputs : pass.Puts kind) {body : Text}
    (hbody : Emphasised body) (rest : Text) :
    bareText (pass.wrap body ++ rest) = bareText body ++ bareText rest := by
  rw [hputs, List.append_assoc, List.append_assoc, bareText_tag (opens_mem_emphasisTags kind),
    hbody.bareText_append, bareText_tag (closes_mem_emphasisTags kind)]

/-- **A pass leaves the bare text as it is**. -/
lemma Pass.Wraps.bareText_eq {pass : Pass} (hpass : pass ∈ Pass.all) {text out : Text}
    {bodies : List Text} (h : pass.Wraps text out bodies) : bareText out = bareText text := by
  obtain ⟨kind, hputs⟩ := exists_puts hpass
  induction h with
  | nil => rfl
  | char hc _ ih => rw [bareText_cons hc, bareText_cons hc, ih]
  | tag htag _ ih => rw [bareText_tag htag, bareText_tag htag, ih]
  | @run d body after out bodies hd hbody _ ih =>
      have hchars := ((isEmphasis_of_mem_all pass hpass).marks d hd).2
      have hmark := bareText_mark hchars
      have hemphasised := emphasised_of_inert fun c hc => isInert_of_isMarkChar (hchars c hc)
      rw [bareText_wrap hputs hbody, hemphasised.bareText_append, hbody.bareText_append,
        hemphasised.bareText_append, hmark, ih, List.nil_append, List.nil_append]

/-- **A text is paired** if it has as many opening as closing tags of each element of emphasis. -/
def IsPaired (text : Text) : Prop :=
  ∃ tags, HasTags text tags
    ∧ ∀ kind, tags.count (Tag.opens kind).inside = tags.count (Tag.closes kind).inside

/-- **A pass keeps a text paired**: it puts in one tag of either kind for each body. -/
lemma Pass.isPaired_wrapRuns {pass : Pass} (hpass : pass ∈ Pass.all) {text : Text}
    (htext : Emphasised text) (h : IsPaired text) : IsPaired (pass.wrapRuns text) := by
  obtain ⟨kind, hputs⟩ := exists_puts hpass
  obtain ⟨tags, htags, hcount⟩ := h
  obtain ⟨inner, wrapped, -, hwrapped, hencloses⟩ :=
    Pass.exists_encloses hpass hputs htext htags
  have hadded : ∀ other, List.count (Tag.opens other).inside
        [(Tag.opens kind).inside, (Tag.closes kind).inside]
      = List.count (Tag.closes other).inside
        [(Tag.opens kind).inside, (Tag.closes kind).inside] := by
    intro other
    cases kind <;> cases other <;> decide
  exact ⟨wrapped, hwrapped, fun other => by
    rw [hencloses.count_eq, hencloses.count_eq, hcount, hadded]⟩

/-! ### Running text -/

/-- **What running text holds**: without the tags of emphasis and the characters of marks it is the
escaped text without the characters of marks, so that nothing else is lost, repeated or moved. All
its tags are tags of emphasis, with as many opening as closing ones of each element. -/
theorem formatText_content (text : Text) :
    (dropEmphasisTags (formatText text)).filter (!isMarkChar ·)
        = (Entity.escape false text).filter (!isMarkChar ·)
      ∧ ∃ tags, tags? (formatText text) = some tags
          ∧ (∀ tag ∈ tags, tag ∈ emphasisTags.map Tag.inside)
          ∧ ∀ kind, tags.count (Tag.opens kind).inside = tags.count (Tag.closes kind).inside := by
  have hbare : bareText (formatText text) = bareText (Entity.escape false text) :=
    formatText_ind (P := fun out => bareText out = bareText (Entity.escape false text)) rfl
      fun pass hpass start hstart hsame =>
        ((Pass.wraps_wrapRuns hpass hstart).bareText_eq hpass).trans hsame
  have hpaired : IsPaired (formatText text) := by
    refine formatText_ind (P := IsPaired) ?_ fun pass hpass start hstart =>
      Pass.isPaired_wrapRuns hpass hstart
    exact ⟨[], hasTags_of_notMem (lt_notMem_escape false text), fun kind => rfl⟩
  obtain ⟨tags, htags, hcount⟩ := hpaired
  obtain ⟨others, hothers, hmem⟩ := (emphasised_formatText text).exists_hasTags
  obtain rfl := hothers.unique htags
  refine ⟨?_, others, htags.tags?_eq, hmem, hcount⟩
  have hescaped : dropEmphasisTags (Entity.escape false text) = Entity.escape false text :=
    dropEmphasisTags_of_inert fun c hc => Entity.isInert_of_mem_escape hc
  rw [← bareText, hbare, bareText, hescaped]

end BlockTree.Inline
