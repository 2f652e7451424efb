import BlockTree.Proofs.InlinePieces

/-!
What the running texts of a line decide about its markup.

* `runningTexts`: the texts of a line that are treated as running text.
* `RunsDecide`: a pair of predicates, which texts are closed and which of these are good. Closed
  texts one behind another are good just if each of them is; a span without running text is good,
  and one with running text is just if that text is spared.
* `RunsDecide.good_renderLine_iff`: so a line without tags is good just if all its running texts are
  spared.
-/

namespace BlockTree.Inline

/-! ### Running texts -/

/-- The text of a span that is treated as running text: that between the other spans, the label of a
link, and the reference to a footnote that is not known. -/
def Span.runningText? (footnotes : Entries Int) : Span → Option Text
  | .running words => some words
  | .note id => if (footnotes.find? id).isNone then some (Span.note id).source else none
  | .link label _ _ => some label
  | _ => none

/-- **The running texts of a line**, from left to right. -/
def runningTexts (footnotes : Entries Int) (line : Text) : List Text :=
  (spans line).filterMap (Span.runningText? footnotes)

lemma Span.infix_of_mem_runningText? {footnotes : Entries Int} {span : Span} {text : Text}
    (h : text ∈ span.runningText? footnotes) : text <:+: span.source := by
  cases span with
  | running words => exact Option.some.inj h ▸ List.infix_rfl
  | note id =>
      rw [runningText?] at h
      split at h
      · exact Option.some.inj h ▸ List.infix_rfl
      · cases h
  | link label address title =>
      obtain rfl : label = text := Option.some.inj h
      exact ⟨"[", "](" ++ address ++ Title.source title ++ ")", by simp [source]⟩
  | _ => cases h

lemma infix_of_mem_runningTexts {footnotes : Entries Int} {line text : Text}
    (h : text ∈ runningTexts footnotes line) : text <:+: line := by
  obtain ⟨span, hspan, hrunning⟩ := List.mem_filterMap.mp h
  exact (Span.infix_of_mem_runningText? hrunning).trans (source_infix_of_mem_spans hspan)

lemma forall_mem_runningTexts {footnotes : Entries Int} {line : Text} {R : Text → Prop} :
    (∀ text ∈ runningTexts footnotes line, R text)
      ↔ ∀ span ∈ spans line, ∀ text ∈ span.runningText? footnotes, R text := by
  constructor
  · exact fun h span hspan text hrunning =>
      h text (List.mem_filterMap.mpr ⟨span, hspan, hrunning⟩)
  · intro h text htext
    obtain ⟨span, hspan, hrunning⟩ := List.mem_filterMap.mp htext
    exact h span hspan text hrunning

/-- A line without a `<` holds no written tag. -/
lemma ne_tag_of_mem_spans {line : Text} (h : '<' ∉ line) {span : Span} (hspan : span ∈ spans line)
    (source : Text) : span ≠ .tag source := by
  rintro rfl
  obtain ⟨inside, rfl, -⟩ := isWritten_of_mem_spans _ hspan
  exact h ((source_infix_of_mem_spans hspan).mem List.mem_cons_self)

/-! ### Decisions -/

/-- **Running texts decide** which texts are good: good texts are closed, closed texts are good one
behind another just if each of them is, and so are elements without running text. Running text, by
itself or as the label of a link, is closed, and good just if it is spared. -/
structure RunsDecide (Closed Good Spared : Text → Prop) : Prop where
  nil : Good []
  closed : ∀ {text}, Good text → Closed text
  append : ∀ {front back}, Closed front → Closed back → Closed (front ++ back)
  good_append_iff : ∀ {front back}, Closed front → Closed back →
    (Good (front ++ back) ↔ Good front ∧ Good back)
  code : ∀ body, Good (Markup.code (Entity.escape true body))
  image : ∀ path alternative (title : Option Title),
    Good (Markup.image (Entity.escape false path) (Entity.escape false alternative)
      (title.map fun t => Entity.escape false t.words))
  reference : ∀ number,
    Good (Markup.footnoteReference (Markup.noteId number) (Markup.referenceId number) number)
  running : ∀ text, Closed (formatText text) ∧ (Good (formatText text) ↔ Spared text)
  link : ∀ address label (title : Option Title),
    Closed (Markup.link (Entity.escape false address) (formatText label)
        (title.map fun t => Entity.escape false t.words))
      ∧ (Good (Markup.link (Entity.escape false address) (formatText label)
          (title.map fun t => Entity.escape false t.words)) ↔ Spared label)

namespace RunsDecide

variable {Closed Good Spared : Text → Prop}

/-- A span with running text. -/
lemma of_running {out text : Text} {running : Option Text}
    (hout : Closed out ∧ (Good out ↔ Spared text)) (hsome : running = some text) :
    Closed out ∧ (Good out ↔ ∀ text ∈ running, Spared text) := by
  rw [hsome]
  refine ⟨hout.1, hout.2.trans ⟨fun hspared other hother => ?_, fun hspared => hspared text rfl⟩⟩
  exact Option.some.inj hother ▸ hspared

variable (h : RunsDecide Closed Good Spared)
include h

/-- Closed texts one behind another are closed, and good just if each of them is. -/
lemma flatMap {α : Type} {items : List α} {f : α → Text}
    (hitems : ∀ item ∈ items, Closed (f item)) :
    Closed (items.flatMap f) ∧ (Good (items.flatMap f) ↔ ∀ item ∈ items, Good (f item)) := by
  induction items with
  | nil => exact ⟨h.closed h.nil, iff_of_true h.nil (List.forall_mem_nil _)⟩
  | cons item rest ih =>
      obtain ⟨hitem, hrest⟩ := List.forall_mem_cons.mp hitems
      obtain ⟨hclosed, hgood⟩ := ih hrest
      rw [List.flatMap_cons, h.good_append_iff hitem hclosed, hgood, List.forall_mem_cons]
      exact ⟨h.append hitem hclosed, Iff.rfl⟩

/-- A span without running text. -/
lemma of_good {out : Text} {running : Option Text} (hout : Good out) (hnone : running = none) :
    Closed out ∧ (Good out ↔ ∀ text ∈ running, Spared text) := by
  rw [hnone]
  exact ⟨h.closed hout, iff_of_true hout nofun⟩

/-- **A span** that is no tag becomes a closed text, which is good just if its running text is
spared. -/
lemma good_renderSpan_iff (footnotes : Entries Int) {span : Span}
    (htag : ∀ source, span ≠ .tag source) :
    Closed (renderSpan footnotes span)
      ∧ (Good (renderSpan footnotes span)
        ↔ ∀ text ∈ span.runningText? footnotes, Spared text) := by
  cases span with
  | running words => exact of_running (h.running words) rfl
  | code ticks body => exact h.of_good (h.code _) rfl
  | tag source => exact absurd rfl (htag source)
  | image alternative path title => exact h.of_good (h.image path alternative title) rfl
  | note id =>
      rw [renderSpan]
      cases hfound : footnotes.find? id with
      | none => exact of_running (h.running _) (by rw [Span.runningText?, hfound]; rfl)
      | some number => exact h.of_good (h.reference number) (by rw [Span.runningText?, hfound]; rfl)
  | link label address title => exact of_running (h.link address label title) rfl

/-- **A line without tags** becomes good text just if all its running texts are spared. -/
theorem good_renderLine_iff (footnotes : Entries Int) {line : Text} (hline : '<' ∉ line) :
    Good (renderLine footnotes line) ↔ ∀ text ∈ runningTexts footnotes line, Spared text := by
  have hspans := fun span (hspan : span ∈ spans line) =>
    h.good_renderSpan_iff footnotes (ne_tag_of_mem_spans hline hspan)
  rw [renderLine, (h.flatMap fun span hspan => (hspans span hspan).1).2, forall_mem_runningTexts]
  exact forall₂_congr fun span hspan => (hspans span hspan).2

end RunsDecide

end BlockTree.Inline
