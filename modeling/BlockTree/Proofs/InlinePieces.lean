import BlockTree.Proofs.EmphasisPasses

/-!
The standard conversion of inline content, piece by piece.

* `isWritten_of_mem_spans`: the tags among the spans of a line are tags as they were written, and
  each stands in the line.
* `composed_renderSpan`: every span becomes a composed text: what an element takes over from the line
  is escaped, and a written tag stays as it is.
* `standard_pieces`: so all that the standard converter gives is inert text, tags of elements with
  inert values, and tags that were written in a line.
-/

namespace BlockTree.Inline

open Entity (isInert)
open Inline.Span (isTagChar)

/-! ### Written tags -/

/-- A span that is no tag, or one that was written as a tag. -/
def Span.IsWritten : Span → Prop
  | .tag source => ∃ inside, source = tagged inside [] ∧ IsWrittenTag inside
  | _ => True

namespace Span

lemma isWritten_of_readCode? {text : Text} {n : Nat} {span : Span} {after : Text}
    (h : readCode? text n = some (span, after)) : span.IsWritten := by
  induction n with
  | zero => cases h
  | succ n ih =>
      rw [readCode?] at h
      split at h
      · obtain ⟨rfl, -⟩ := Prod.mk_inj.mp (Option.some.inj h)
        trivial
      · exact ih h

lemma tagName?_cases {text slash name : Text} (h : tagName? text = some (slash, name)) :
    (slash = [] ∨ slash = ['/']) ∧ ∃ letter rest, name = letter :: rest
      ∧ letter.isAlpha = true := by
  unfold tagName? at h
  split at h
  · split at h
    · obtain ⟨rfl, rfl⟩ := Prod.mk_inj.mp (Option.some.inj h)
      exact ⟨Or.inr rfl, _, _, rfl, by assumption⟩
    · cases h
  · split at h
    · obtain ⟨rfl, rfl⟩ := Prod.mk_inj.mp (Option.some.inj h)
      exact ⟨Or.inl rfl, _, _, rfl, by assumption⟩
    · cases h
  · cases h

lemma isWritten_of_readTag? {text after : Text} {span : Span}
    (h : readTag? text = some (span, after)) : span.IsWritten := by
  simp only [readTag?, Option.bind_eq_some_iff, Prod.exists] at h
  obtain ⟨inner, -, slash, name, hname, h⟩ := h
  obtain ⟨hslash, letter, rest, rfl, hletter⟩ := tagName?_cases hname
  split at h
  · obtain ⟨rfl, -⟩ := Prod.mk_inj.mp (Option.some.inj h)
    have htake : (letter :: rest).takeWhile isTagChar = letter :: rest.takeWhile isTagChar :=
      List.takeWhile_cons_of_pos (isTagChar_of_isAlpha hletter)
    refine ⟨slash ++ letter :: rest.takeWhile isTagChar, ?_, slash, letter, _, rfl, hslash, hletter,
      List.all_eq_true.mp List.all_takeWhile⟩
    rw [htake]
    simp [tagged]
  · cases h

/-- Spans other than tags are no tags, and tags are read as they were written. -/
lemma isWritten_of_read? {text after : Text} {span : Span} (h : read? text = some (span, after)) :
    span.IsWritten := by
  obtain ⟨reader, hmem, h⟩ := List.exists_of_findSome?_eq_some h
  simp only [readers, List.mem_cons, List.not_mem_nil, or_false] at hmem
  obtain rfl | rfl | rfl | rfl | rfl := hmem
  · exact isWritten_of_readCode? h
  · exact isWritten_of_readTag? h
  · simp only [readImage?, Option.bind_eq_some_iff, Option.map_eq_some_iff, Prod.exists,
      Prod.mk.injEq] at h
    obtain ⟨-, -, -, -, -, -, -, -, -, rfl, -⟩ := h
    trivial
  · simp only [readNote?, Option.bind_eq_some_iff, Prod.exists] at h
    obtain ⟨-, -, id, after, -, h⟩ := h
    split at h
    · cases h
    · obtain ⟨rfl, -⟩ := Prod.mk_inj.mp (Option.some.inj h)
      trivial
  · simp only [readLink?, Option.bind_eq_some_iff, Prod.exists] at h
    obtain ⟨-, -, label, target, -, h⟩ := h
    split at h
    · cases h
    · simp only [Option.map_eq_some_iff, Prod.exists, Prod.mk.injEq] at h
      obtain ⟨-, -, -, -, rfl, -⟩ := h
      trivial

end Span

lemma isWritten_of_mem_spans {line : Text} : ∀ span ∈ spans line, span.IsWritten := by
  fun_induction spans line with
  | case1 => exact List.forall_mem_nil _
  | case2 c rest span after h ih =>
      rw [List.forall_mem_cons]
      exact ⟨Span.isWritten_of_read? h, ih⟩
  | case3 c rest h ih =>
      rw [consText.eq_def]
      split
      · rename_i words more heq
        rw [heq, List.forall_mem_cons] at ih
        exact List.forall_mem_cons.mpr ⟨trivial, ih.2⟩
      · exact List.forall_mem_cons.mpr ⟨trivial, ih⟩

/-- The text of a span stands in its line. -/
lemma source_infix_of_mem_spans {line : Text} {span : Span} (h : span ∈ spans line) :
    span.source <:+: line := by
  obtain ⟨front, back, hspans⟩ := List.append_of_mem h
  have hline := source_spans line
  rw [hspans, List.flatMap_append, List.flatMap_cons] at hline
  exact ⟨front.flatMap Span.source, back.flatMap Span.source, by rw [← hline, List.append_assoc]⟩

/-! ### Spans -/

section

variable {line : Text}

lemma composed_formatText {lines : List Text} (text : Text) : Composed lines (formatText text) :=
  (emphasised_formatText text).composed

lemma isInert_of_mem_title {title : Option Title} :
    ∀ words ∈ (title.map fun t => Entity.escape false t.words).toList,
      ∀ c ∈ words, isInert c = true := by
  intro words hwords
  obtain ⟨t, -, rfl⟩ := Option.mem_map.mp (Option.mem_toList.mp hwords)
  exact fun c hc => Entity.isInert_of_mem_escape hc

/-- **Every span** of a line becomes a composed text. -/
lemma composed_renderSpan (footnotes : Entries Int) {span : Span} (hspan : span ∈ spans line) :
    Composed [line] (renderSpan footnotes span) := by
  have escaped : ∀ every text, ∀ c ∈ Entity.escape every text, isInert c = true :=
    fun every text c hc => Entity.isInert_of_mem_escape hc
  cases span with
  | running words => exact composed_formatText words
  | code ticks body =>
      have hopening : Tag.opensCode.IsInert := nofun
      have hclosing : Tag.closesCode.IsInert := nofun
      rw [renderSpan, code_eq]
      exact ((composed_tag hopening).append (composed_text (escaped true _))).append
        (composed_tag hclosing)
  | tag source =>
      obtain ⟨inside, rfl, hwritten⟩ := isWritten_of_mem_spans _ hspan
      have hlegal : (Piece.written inside).Legal [line] :=
        ⟨hwritten, line, List.mem_cons_self, source_infix_of_mem_spans hspan⟩
      exact composed_piece hlegal
  | image alternative path title =>
      rw [renderSpan, image_eq]
      refine composed_tag (List.forall_mem_cons.mpr ⟨escaped false path, ?_⟩)
      exact List.forall_mem_cons.mpr ⟨escaped false alternative, isInert_of_mem_title⟩
  | note id =>
      rw [renderSpan]
      split
      · exact composed_formatText _
      · rename_i number _
        have hnumber : ∀ c ∈ Text.integer number, isInert c = true :=
          fun c hc => isInert_of_mem_integer hc
        have hopening : (Tag.opensReference number).IsInert := List.forall_mem_singleton.mpr hnumber
        have hclosing : Tag.closesLink.IsInert := nofun
        rw [footnoteReference_eq]
        exact ((composed_tag hopening).append (composed_text hnumber)).append
          (composed_tag hclosing)
  | link label address title =>
      have hopening : (Tag.opensLink (Entity.escape false address)
          (title.map fun t => Entity.escape false t.words)).IsInert :=
        List.forall_mem_cons.mpr ⟨escaped false address, isInert_of_mem_title⟩
      have hclosing : Tag.closesLink.IsInert := nofun
      rw [renderSpan, link_eq]
      exact ((composed_tag hopening).append (composed_formatText label)).append
        (composed_tag hclosing)

end

/-! ### Lines -/

section

variable (footnotes : Entries Int)

lemma composed_renderLine (line : Text) : Composed [line] (renderLine footnotes line) :=
  composed_flatMap fun _ hspan => composed_renderSpan footnotes hspan

lemma composed_renderInnerLine (line : Text) :
    Composed [line] (renderInnerLine footnotes line) := by
  have hbreak : Tag.lineBreak.IsInert := nofun
  rw [renderInnerLine]
  split
  · obtain ⟨back, hback, -⟩ := Text.exists_trimEnd (· = ' ') line
    have hprefix : Text.trimEnd (· = ' ') line <:+: line :=
      ⟨[], back, by rw [List.nil_append, ← hback]⟩
    have hlonger : ∀ trimmed ∈ [Text.trimEnd (· = ' ') line], ∃ other ∈ [line],
        trimmed <:+: other :=
      List.forall_mem_singleton.mpr ⟨line, List.mem_cons_self, hprefix⟩
    rw [lineBreak_eq]
    exact ((composed_renderLine footnotes _).mono hlonger).append (composed_tag hbreak)
  · exact composed_renderLine footnotes line

lemma composed_renderLines (lines : List Text) :
    ∀ text ∈ renderLines footnotes lines, Composed lines text := by
  have first : ∀ (line : Text) (rest : List Text) {text : Text}, Composed [line] text →
      Composed (line :: rest) text := fun line rest text h =>
    h.mono (List.forall_mem_singleton.mpr ⟨line, List.mem_cons_self, List.infix_refl line⟩)
  fun_induction renderLines footnotes lines with
  | case1 => exact List.forall_mem_nil _
  | case2 line => exact List.forall_mem_singleton.mpr (composed_renderLine footnotes line)
  | case3 line rest hrest ih =>
      refine List.forall_mem_cons.mpr ⟨first line rest (composed_renderInnerLine footnotes line), ?_⟩
      intro text htext
      exact (ih text htext).mono fun other hother =>
        ⟨other, List.mem_cons_of_mem line hother, List.infix_refl other⟩

lemma composed_join {lines texts : List Text} (h : ∀ text ∈ texts, Composed lines text) :
    Composed lines (Text.join ['\n'] texts) := by
  have hfeed : Composed lines ['\n'] := composed_text (by decide)
  induction texts with
  | nil => exact composed_nil
  | cons text rest ih =>
      rw [List.forall_mem_cons] at h
      cases rest with
      | nil => exact h.1
      | cons next rest =>
          rw [Text.join_cons_cons]
          exact (h.1.append hfeed).append (ih h.2)

/-- In converted content every `<` begins a complete tag. -/
lemma exists_hasTags_standard (content : Content) :
    ∃ tags, HasTags (Converter.standard footnotes content) tags := by
  obtain ⟨pieces, hsource, hlegal⟩ :=
    composed_join (composed_renderLines footnotes content.toLines)
  refine ⟨pieces.flatMap Piece.tags, ?_⟩
  rw [Converter.standard, hsource]
  exact hasTags_flatMap hlegal

end

/-- **The pieces of converted content**: whatever the content and whatever footnotes are known, the
standard converter gives inert text, tags of elements in which all addresses, paths, texts, titles
and numbers are inert, and tags that were written in one of the lines. So the tags of the markup are
those of the elements and those that were written, and nothing that was written as text gives rise
to a tag or ends the value of an attribute. Of a reference to a footnote whose number has more than
`Text.digitLimit` digits this says nothing that could be seen: to write the number is a value error,
and there is no markup for the content. -/
theorem standard_pieces (footnotes : Entries Int) (content : Content) :
    ∃ pieces : List Piece,
      Converter.standard footnotes content = pieces.flatMap Piece.source
        ∧ (∀ piece ∈ pieces, piece.Legal content.toLines)
        ∧ HasTags (Converter.standard footnotes content) (pieces.flatMap Piece.tags) := by
  obtain ⟨pieces, hsource, hlegal⟩ :=
    composed_join (composed_renderLines footnotes content.toLines)
  refine ⟨pieces, hsource, hlegal, ?_⟩
  rw [Converter.standard, hsource]
  exact hasTags_flatMap hlegal

end BlockTree.Inline
