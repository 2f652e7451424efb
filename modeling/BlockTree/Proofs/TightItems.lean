import BlockTree.Proofs.AttributeEffect
import BlockTree.Proofs.InlinePieces
import BlockTree.Proofs.ParagraphTags

/-!
Tight list items, and the paragraph in one.

* `Context.renderSiblings_singleton`: a single sibling that settles on a text is all there is.
* `renderBlock_item_of_blocks` and `renderBlock_item_of_ok`: the own tag of an item goes around what
  its blocks are rendered to, in a tight one without the paragraph tags.
* `paragraphRemains`: what the pass leaves of the opening tag of a paragraph. It ends the tag at the
  first `>`, also at one in the value of an attribute, and keeps what is behind that.
* `renderBlock_tight_paragraph`: a tight item of a paragraph shows that, then the converted lines.
-/

namespace BlockTree

/-! ### Items -/

section

variable {ctx : Context}

/-- A single sibling that settles on a text is all there is, under every exhaustive dispatch. -/
lemma Context.renderSiblings_singleton (hdispatch : ctx.dispatch.Exhaustive) {action : RenderM Part}
    {rendered : Rendered} (h : Settles action (.ok rendered.part)) :
    Settles (ctx.renderSiblings [action]) (.ok rendered) := by
  have hjoined : joined ctx.dispatch [.ok rendered.part] = .ok rendered := by
    refine (joined_eq_ok hdispatch).mpr ⟨[rendered.part], rfl, ?_⟩
    have hjoin := Part.joinFrom_map_part 0 [rendered]
    rw [List.flatMap_singleton, List.flatMap_singleton] at hjoin
    exact hjoin
  rw [← hjoined]
  exact ctx.renderSiblings_settles (.cons h .nil)

lemma renderBlocks_singleton (hdispatch : ctx.dispatch.Exhaustive) {block : Block}
    {rendered : Rendered} (h : Settles (renderBlock ctx block) (.ok rendered.part)) :
    Settles (renderBlocks ctx [block]) (.ok rendered) :=
  Context.renderSiblings_singleton hdispatch h

/-- Accepted attributes go into the tag that the markup begins with. -/
lemma Context.decorate_of_accepted {head : Head} {attributes : Attributes}
    (hhead : head.attributes.resolve ctx.readAttributes = .ok attributes) {name : Text}
    (hname : IsElementName name) (body : Text) :
    ctx.decorate head [] (tagged name body)
      = .ok (tagged (name ++ Attributes.inTag attributes) body) :=
  decorate_of_resolves hname hhead body

lemma leaf_settles_of_accepted {head : Head} {attributes : Attributes}
    (hhead : head.attributes.resolve ctx.readAttributes = .ok attributes) {name : Text}
    (hname : IsElementName name) (body : Text) :
    Settles (Rendered.part <$> ctx.leaf head (tagged name body))
      (.ok (Rendered.part ⟨tagged (name ++ Attributes.inTag attributes) body, []⟩)) := by
  rw [Context.leaf, Context.decorate_of_accepted hhead hname]
  exact (settles_liftM _).map _

/-- What a list item shows of its content. -/
def shownInItem (tight : Bool) (content : Text) : Text :=
  if tight then dropParagraphTags content else content

/-- **The markup of an item**: its own tag with its attributes goes around what its blocks are
rendered to; a tight item loses the paragraph tags. -/
lemma renderBlock_item_of_blocks {head : Head} {own : Attributes}
    (hown : head.attributes.resolve ctx.readAttributes = .ok own) (kind : ListKind)
    {blocks : List Block} (spaced : Bool) {s t : Journal} {content : Rendered}
    (h : renderBlocks ctx blocks s = (.ok content, t)) :
    renderBlock ctx (.item head kind blocks spaced) s
      = (.ok ⟨.text ("<li" ++ Attributes.inTag own ++ ">"
          ++ shownInItem (isTight spaced blocks.length) content.html ++ "</li>\n"),
          content.messages⟩, t) := by
  have hname : IsElementName "li" := isElementName_of_mem _ (by decide)
  have hsiblings : ctx.renderSiblings (blocks.map (renderBlock ctx)) s = (.ok content, t) := by
    rw [← renderEach_eq_map]
    exact h
  have hmarkup : itemHtml (isTight spaced blocks.length) content.html
      = tagged "li" (shownInItem (isTight spaced blocks.length) content.html ++ "</li>\n") := by
    rw [itemHtml, shownInItem, tagged]
    simp
  have hshown : "<li".toList ++ Attributes.inTag own ++ ">"
        ++ shownInItem (isTight spaced blocks.length) content.html ++ "</li>\n"
      = tagged ("li" ++ Attributes.inTag own)
          (shownInItem (isTight spaced blocks.length) content.html ++ "</li>\n") := by
    simp [tagged]
  rw [renderBlock_of_holds (.item head kind blocks spaced), Action.map_apply,
    Context.container_of_siblings hsiblings, Context.wrapped, hmarkup,
    Context.decorate_of_accepted hown hname, hshown]
  rfl

/-- Markup with the attributes of a head has accepted ones. -/
lemma Context.accepted_of_wrap (ctx : Context) {head : Head} {around : Text → Text}
    {content rendered : Rendered} {s t : Journal}
    (h : ctx.wrap head around content s = (.ok rendered, t)) :
    ∃ own, head.attributes.resolve ctx.readAttributes = .ok own := by
  cases hresolve : head.attributes.resolve ctx.readAttributes with
  | error list =>
      rw [wrap, decorate, Attributes.decorate, Attributes.Spec.resolveWith, hresolve] at h
      cases h
  | ok own => exact ⟨own, rfl⟩

/-- **An item that is rendered**: its blocks are, its attributes are accepted, and the markup is as
above. -/
lemma renderBlock_item_of_ok {head : Head} {kind : ListKind} {blocks : List Block} {spaced : Bool}
    {s t : Journal} {part : Part}
    (h : renderBlock ctx (.item head kind blocks spaced) s = (.ok part, t)) :
    ∃ own content, head.attributes.resolve ctx.readAttributes = .ok own
      ∧ renderBlocks ctx blocks s = (.ok content, t)
      ∧ part = ⟨.text ("<li" ++ Attributes.inTag own ++ ">"
          ++ shownInItem (isTight spaced blocks.length) content.html ++ "</li>\n"),
          content.messages⟩ := by
  have hrun := h
  rw [renderBlock_of_holds (.item head kind blocks spaced)] at hrun
  obtain ⟨rendered, hcontainer, -⟩ := Action.map_eq_ok.mp hrun
  obtain ⟨content, u, hsiblings, hwrap⟩ := Action.bind_eq_ok.mp hcontainer
  have hblocks : renderBlocks ctx blocks s = (.ok content, u) := by
    rw [renderBlocks, renderEach_eq_map]
    exact hsiblings
  obtain ⟨own, hown⟩ := ctx.accepted_of_wrap hwrap
  rw [renderBlock_item_of_blocks hown kind spaced hblocks] at h
  obtain ⟨hpart, rfl⟩ := Prod.mk_inj.mp h
  exact ⟨own, content, hown, hblocks, (Except.ok.inj hpart).symm⟩

/-- A tight item shows its only child without the paragraph tags. -/
lemma renderBlock_tight_of_child {head : Head} {own : Attributes}
    (hown : head.attributes.resolve ctx.readAttributes = .ok own) (kind : ListKind) {child : Block}
    {s t : Journal} {content : Rendered} (h : renderBlocks ctx [child] s = (.ok content, t)) :
    renderBlock ctx (.item head kind [child] false) s
      = (.ok ⟨.text ("<li" ++ Attributes.inTag own ++ ">" ++ dropParagraphTags content.html
          ++ "</li>\n"), content.messages⟩, t) :=
  renderBlock_item_of_blocks hown kind false h

end

/-! ### Paragraphs in tight items -/

/-- **What is left of the opening tag** of a paragraph with these attributes: the pass takes it out up
to the first `>`, and the paragraph tags that it finds behind that. -/
def paragraphRemains (attributes : Attributes) : Text :=
  match (Attributes.serialize attributes).cut? '>' with
  | none => []
  | some (_, after) => dropParagraphTags (after ++ ['>'])

lemma paragraphRemains_of_notMem {attributes : Attributes}
    (h : '>' ∉ Attributes.serialize attributes) : paragraphRemains attributes = [] := by
  rw [paragraphRemains]
  split
  · rfl
  · rename_i before after hcut
    have hmem : '>' ∈ before ++ '>' :: after := by simp
    rw [← (Text.cut?_eq_some hcut).1] at hmem
    exact absurd hmem h

lemma paragraphRemains_of_append {attributes : Attributes} {before after : Text}
    (h : Attributes.serialize attributes = before ++ '>' :: after) (hclose : '>' ∉ before) :
    paragraphRemains attributes = dropParagraphTags (after ++ ['>']) := by
  rw [paragraphRemains, h, Text.cut?_append hclose]

lemma isParagraphTag_cons_blank (inside : Text) : isParagraphTag ('p' :: ' ' :: inside) = true :=
  isParagraphTag_iff.mpr ⟨['p'], ' ' :: inside, rfl, Or.inl rfl, rfl⟩

lemma dropParagraphTags_opening (attributes : Attributes) (body : Text) :
    dropParagraphTags (tagged ("p" ++ Attributes.inTag attributes) body)
      = paragraphRemains attributes ++ dropParagraphTags body := by
  rw [Attributes.inTag]
  by_cases hclose : '>' ∈ Attributes.serialize attributes
  · obtain ⟨before, after, hserialize, hbefore⟩ := List.eq_append_cons_of_mem hclose
    have hopening : tagged ("p" ++ ' ' :: Attributes.serialize attributes) body
        = tagged ('p' :: ' ' :: before) (after ++ '>' :: body) := by
      rw [hserialize]
      simp [tagged]
    rw [if_neg (by simp [hserialize]), hopening,
      dropParagraphTags_of_tag (by simp [hbefore]) (isParagraphTag_cons_blank before),
      dropParagraphTags_close, paragraphRemains_of_append hserialize hbefore]
  · rw [paragraphRemains_of_notMem hclose, List.nil_append]
    split
    · exact dropParagraphTags_of_tag (by decide) (by decide) body
    · exact dropParagraphTags_of_tag (by simp [hclose]) (isParagraphTag_cons_blank _) body

lemma dropParagraphTags_closing : dropParagraphTags "</p>\n" = ['\n'] := by
  have hclosing : "</p>\n".toList = tagged ['/', 'p'] ['\n'] := rfl
  rw [hclosing, dropParagraphTags_of_tag (by decide) (by decide),
    dropParagraphTags_eq_self (by decide)]

section

variable {ctx : Context}

/-- A paragraph with accepted attributes, alone among its siblings. -/
lemma renderBlocks_paragraph (hdispatch : ctx.dispatch.Exhaustive) {head : Head}
    {attributes : Attributes} (hhead : head.attributes.resolve ctx.readAttributes = .ok attributes)
    (lines : List Text) (s : Journal) :
    renderBlocks ctx [.para head lines] s
      = (.ok ⟨tagged ("p" ++ Attributes.inTag attributes)
          (ctx.convert (.lines lines) ++ "</p>\n"), []⟩, s) := by
  have hname : IsElementName ['p'] := isElementName_of_mem _ (by decide)
  have hmarkup : paragraphHtml ctx.convert lines
      = tagged ['p'] (ctx.convert (.lines lines) ++ "</p>\n") := by
    rw [paragraphHtml]
    simp [tagged]
  have hsettles : Settles (renderBlock ctx (.para head lines)) (.ok (Rendered.part
      ⟨tagged ("p" ++ Attributes.inTag attributes) (ctx.convert (.lines lines) ++ "</p>\n"), []⟩)) := by
    rw [renderBlock, Context.paragraph, hmarkup]
    exact leaf_settles_of_accepted hhead hname _
  exact renderBlocks_singleton hdispatch hsettles s

/-- **A tight item of a paragraph** shows what is left of the opening tag and of the text behind
it. -/
lemma renderBlock_tight_of_paragraph (hdispatch : ctx.dispatch.Exhaustive) {head paragraph : Head}
    {own attributes : Attributes}
    (hown : head.attributes.resolve ctx.readAttributes = .ok own)
    (hattributes : paragraph.attributes.resolve ctx.readAttributes = .ok attributes)
    (kind : ListKind) {lines : List Text} {shown : Text}
    (hshown : dropParagraphTags (ctx.convert (.lines lines) ++ "</p>\n") = shown ++ ['\n'])
    (s : Journal) :
    renderBlock ctx (.item head kind [.para paragraph lines] false) s
      = (.ok ⟨.text ("<li" ++ Attributes.inTag own ++ ">" ++ paragraphRemains attributes ++ shown
          ++ "\n</li>\n"), []⟩, s) := by
  have hblocks := renderBlocks_paragraph hdispatch hattributes lines s
  rw [renderBlock_tight_of_child hown kind hblocks, dropParagraphTags_opening, hshown]
  simp

end

/-- **The paragraph of a tight item** loses its tags. Around it, the item has its own tag with its own
attributes. Nothing is left of the tags of the paragraph if its attributes are written without `>`;
otherwise the pass ends the opening tag at the first of these, and what is behind it stays in front of
the content, up to further paragraph tags in it. The content stays as it is unless it leaves a
paragraph tag open, which ends with the closing tag then; the standard conversion leaves none open. -/
theorem renderBlock_tight_paragraph (ctx : Context) (hdispatch : ctx.dispatch.Exhaustive)
    {head paragraph : Head} (kind : ListKind) (lines : List Text) {own attributes : Attributes}
    (hown : head.attributes.resolve ctx.readAttributes = .ok own)
    (hattributes : paragraph.attributes.resolve ctx.readAttributes = .ok attributes)
    (hnone : ¬ HasParagraphTag (ctx.convert (.lines lines))) (s : Journal) :
    (¬ LeavesParagraphTagOpen (ctx.convert (.lines lines)) →
      renderBlock ctx (.item head kind [.para paragraph lines] false) s
        = (.ok ⟨.text ("<li" ++ Attributes.inTag own ++ ">" ++ paragraphRemains attributes
            ++ ctx.convert (.lines lines) ++ "\n</li>\n"), []⟩, s))
    ∧ (∀ front last, ctx.convert (.lines lines) = front ++ last → ¬ LeavesParagraphTagOpen front →
      IsOpenParagraphTag last →
      renderBlock ctx (.item head kind [.para paragraph lines] false) s
        = (.ok ⟨.text ("<li" ++ Attributes.inTag own ++ ">" ++ paragraphRemains attributes ++ front
            ++ "\n</li>\n"), []⟩, s))
    ∧ ('>' ∉ Attributes.serialize attributes → paragraphRemains attributes = [])
    ∧ (∀ before after, Attributes.serialize attributes = before ++ '>' :: after → '>' ∉ before →
      paragraphRemains attributes = dropParagraphTags (after ++ ['>'])
        ∧ (¬ HasParagraphTag (after ++ ['>']) → paragraphRemains attributes = after ++ ['>']))
    ∧ ∀ footnotes content,
      ¬ LeavesParagraphTagOpen (Inline.Converter.standard footnotes content) := by
  have hclosing : "</p>\n".toList = '<' :: "/p>\n".toList := rfl
  refine ⟨fun hopen => ?_, fun front last hconvert hfront hlast => ?_,
    paragraphRemains_of_notMem, fun before after hserialize hbefore => ?_, fun footnotes content => ?_⟩
  · refine renderBlock_tight_of_paragraph hdispatch hown hattributes kind ?_ s
    rw [hclosing, dropParagraphTags_append_tag hopen, ← hclosing, dropParagraphTags_closing,
      dropParagraphTags_eq_self hnone]
  · refine renderBlock_tight_of_paragraph hdispatch hown hattributes kind ?_ s
    have hbefore : ¬ HasParagraphTag front := fun h => hnone (hconvert ▸ h.append last)
    have hopen : last ++ "</p>\n" = last ++ tagged ['/', 'p'] ['\n'] := rfl
    obtain ⟨more, hmore⟩ : ∃ more, last ++ "</p>\n" = '<' :: more := by
      obtain ⟨tag, rfl, -⟩ := hlast
      exact ⟨_, rfl⟩
    rw [hconvert, List.append_assoc, hmore, dropParagraphTags_append_tag hfront, ← hmore, hopen,
      dropParagraphTags_of_isOpen hlast (by decide), dropParagraphTags_eq_self hbefore,
      dropParagraphTags_eq_self (by decide)]
  · have hremains := paragraphRemains_of_append hserialize hbefore
    exact ⟨hremains, fun hnone => hremains.trans (dropParagraphTags_eq_self hnone)⟩
  · obtain ⟨tags, htags⟩ := Inline.exists_hasTags_standard footnotes content
    exact htags.not_leavesParagraphTagOpen

/-- A paragraph with a class, in an item with an identifier. -/
theorem renderBlock_tight_paragraph_lead :
    renderBlock {} (.item { attributes := .written "#a" } .bulleted
        [.para { attributes := .written ".lead" } ["*x* <b>"]] false) []
      = (.ok ⟨.text "<li id=\"a\"><em>x</em> <b>\n</li>\n", []⟩, []) := by
  have hown : Attributes.Spec.resolve Attributes.readList
      ({ attributes := .written "#a" } : Head).attributes = .ok [("id", ["a"])] := by
    decide +kernel
  have hattributes : Attributes.Spec.resolve Attributes.readList
      ({ attributes := .written ".lead" } : Head).attributes = .ok [("class", ["lead"])] := by
    decide +kernel
  have hconvert : Inline.Converter.standard [] (.lines ["*x* <b>"]) = "<em>x</em> <b>" := by
    decide +kernel
  have hnone : ¬ HasParagraphTag (Inline.Converter.standard [] (.lines ["*x* <b>"])) := by
    rw [hconvert]
    decide
  obtain ⟨hshown, -, hremains, -, hclosed⟩ := renderBlock_tight_paragraph {}
    Dispatch.inOrder_sequential.exhaustive .bulleted ["*x* <b>"] hown hattributes hnone []
  have hitem := hshown (hclosed [] _)
  rw [hremains (by decide)] at hitem
  have hdefault : Context.convert {} (.lines ["*x* <b>"]) = "<em>x</em> <b>" := hconvert
  rw [hdefault] at hitem
  exact hitem

/-- **A `>` in a title** ends the opening tag for the pass, and the rest of the title is shown. -/
theorem tight_paragraph_with_close_in_title :
    renderBlock {} (.item {} .bulleted
        [.para { attributes := .written "title=\"a>b\"" } ["one"]] false) []
      = (.ok ⟨.text "<li>b\">one\n</li>\n", []⟩, [])
    ∧ Attributes.readList "title=\"a>b\"" = ⟨[("title", ["a>b"])], []⟩
    ∧ ¬ HasParagraphTag (Inline.Converter.standard [] (.lines ["one"]))
    ∧ "<li>b\">one\n</li>\n".toList
        ≠ "<li>" ++ Inline.Converter.standard [] (.lines ["one"]) ++ "\n</li>\n" := by
  exact ⟨Prod.ext (by decide +kernel) (by decide +kernel), by decide +kernel, by decide +kernel,
    by decide +kernel⟩

end BlockTree
