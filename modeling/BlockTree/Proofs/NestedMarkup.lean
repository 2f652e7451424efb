import BlockTree.Proofs.Escaping
import BlockTree.Proofs.FirstFault
import BlockTree.Proofs.Guarantee
import BlockTree.Proofs.OwnTag

/-!
The markup of a document is well nested.

* `Head.IsPlain`: accepted attributes that are written without `<` and `>`;
  `Block.HasOrdinaryMarkup`: a block that the renderer itself writes all tags of, with such
  attributes. `Block.spans`: the texts that it gives to the converter.
* `leaf_nested`: the tags that are written for a leaf match, once the converter's do.
* `renderBlock_nested`: containers put an element around what their children give; tight items take
  the paragraph tags out of it.
* `renderBlocks_wellNested`: so the markup of a document is well nested at any depth.
-/

namespace BlockTree

open Inline (Content Converter)
open Inline.Span (isTagChar)

/-! ### What a document has to keep to -/

/-- **A plain head**: its attributes are accepted and written without `<` and `>`. -/
def Head.IsPlain (reader : Attributes.Reader) (head : Head) : Prop :=
  ∃ attributes, head.attributes.resolve reader = .ok attributes ∧ Attributes.IsPlain attributes

/-- The cells of a table, the header first. -/
def Grid.cells (grid : Grid) : List Text :=
  grid.header.getD [] ++ grid.rows.flatten

namespace Block

/-- **Ordinary markup**: all tags but those of the converter are written by the renderer, and the
attributes of the block are plain where they are read. A footnote list has attributes of its own
written around its notes, which are plain to the own grammar (`itemHead_isPlain_readList`). -/
def HasOrdinaryMarkup (reader : Attributes.Reader) : Block → Prop
  | .para head _ => head.IsPlain reader
  | .heading head _ _ => head.IsPlain reader
  | .quote head _ => head.IsPlain reader
  | .code head _ language => head.IsPlain reader ∧ language.getD [] = []
  | .ruler head _ => head.IsPlain reader
  | .list head _ _ => head.IsPlain reader
  | .item head _ _ _ => head.IsPlain reader
  | .table head _ => head.IsPlain reader
  | .footnotes _ notes =>
    reader = Attributes.readList ∨ ∀ note ∈ notes, note.itemHead.IsPlain reader
  | .attributeList _ _ => True
  | .linkTarget _ _ _ _ => True
  | .html _ _ => False
  | .htmlOther _ _ => False
  | .plugin _ _ _ => False
  | .foreign _ => False

/-- The texts of a block that are converted; those of a footnote list have the return links in
them. -/
def spans : Block → List Content
  | .para _ lines => [.lines lines]
  | .heading _ _ content => [.text content]
  | .table _ grid => grid.cells.map .text
  | .attributeList _ content => [.lines [['\x7b', ':'] ++ content ++ ['\x7d']]]
  | .footnotes _ notes => notes.map fun note => .lines note.linked.lines
  | _ => []

lemma Holds.isPlain {block : Block} {head : Head} {around : Text → Text} {blocks : List Block}
    (h : block.Holds head around blocks) {reader : Attributes.Reader}
    (hblock : block.HasOrdinaryMarkup reader) : head.IsPlain reader := by
  cases h <;> exact hblock

end Block

/-! ### Elements -/

/-- The elements around content that blocks are written with, headings apart. -/
def elementNames : List Text :=
  ["p", "blockquote", "ul", "ol", "li", "pre", "code", "table", "colgroup", "thead", "tr", "th", "td"]

lemma isElementName_of_mem (name : Text) (h : name ∈ elementNames) : IsElementName name := by
  have hall : ∀ name ∈ elementNames, name ≠ [] ∧ (∀ c ∈ name, isElementChar c = true)
      ∧ name ∉ voidNames := by
    decide +kernel
  obtain ⟨hne, hchars, hvoid⟩ := hall name h
  exact ⟨hne, hchars, hvoid⟩

lemma isElementName_word (kind : ListKind) : IsElementName kind.word :=
  isElementName_of_mem _ (by cases kind <;> decide)

lemma isElementName_heading (level : Int) : IsElementName ("h" ++ Text.integer level) := by
  have hdigit : ∀ c ∈ Text.integer level,
      isTagChar c = true ∧ Text.isBlank c = false ∧ c ≠ '/' ∧ c ≠ 'r' := by
    intro c hc
    rcases Text.mem_integer hc with rfl | hc
    · decide
    · have hid := Attributes.Token.isIdChar_of_isDigit hc
      have hne : ∀ d : Char, d.isDigit = false → c ≠ d := fun d => Text.ne_of_class hc
      exact ⟨by simp [isTagChar, hne '<' rfl, hne '>' rfl],
        Attributes.Token.not_isBlank_of_isIdChar hid, hne '/' rfl, hne 'r' rfl⟩
  refine ⟨List.cons_ne_nil _ _, List.forall_mem_cons.mpr ⟨by decide, fun c hc => ?_⟩,
    fun hvoid => ?_⟩
  · obtain ⟨htag, hblank, hslash, -⟩ := hdigit c hc
    exact isElementChar_iff.mpr ⟨htag, hblank, hslash⟩
  · -- Only `hr` starts with an `h`, and no number is written with an `r`.
    have hcases : 'h' :: Text.integer level = ['h', 'r'] ∨ 'h' :: Text.integer level = ['c', 'o', 'l']
        ∨ 'h' :: Text.integer level = ['b', 'r'] ∨ 'h' :: Text.integer level = ['i', 'm', 'g'] := by
      simpa [voidNames] using hvoid
    rcases hcases with h | h | h | h
    · have hr : 'r' ∈ Text.integer level := by rw [(List.cons.inj h).2]; decide
      exact (hdigit 'r' hr).2.2.2 rfl
    · exact absurd (List.cons.inj h).1 (by decide)
    · exact absurd (List.cons.inj h).1 (by decide)
    · exact absurd (List.cons.inj h).1 (by decide)

section

variable {ctx : Context} {admitted : Fault → Prop}

/-- Plain attributes stay plain with plain defaults. -/
lemma Head.IsPlain.resolveWith {reader : Attributes.Reader} {head : Head} (h : head.IsPlain reader)
    {defaults : Attributes} (hdefaults : Attributes.IsPlain defaults) :
    ∃ attributes, head.attributes.resolveWith reader defaults = .ok attributes
      ∧ Attributes.IsPlain attributes := by
  obtain ⟨attributes, hresolve, hplain⟩ := h
  refine ⟨Attributes.merge attributes defaults, ?_, hplain.merge hdefaults⟩
  rw [Attributes.Spec.resolveWith, hresolve]
  rfl

/-- The own tag of a block takes plain attributes as they are written. -/
lemma decorate_tagged_eq_ok {head : Head} (h : head.IsPlain ctx.readAttributes) {name : Text}
    (hname : IsElementName name) (rest : Text) :
    ∃ attributes, Attributes.IsPlain attributes
      ∧ ctx.decorate head [] (tagged name rest)
          = .ok (tagged (name ++ Attributes.inTag attributes) rest) := by
  have hnone : Attributes.IsPlain [] := nofun
  obtain ⟨attributes, hresolve, hplain⟩ := h.resolveWith hnone
  refine ⟨attributes, hplain, ?_⟩
  rw [Context.decorate, decorate_tagged hname, hresolve]
  rfl

/-- **An element of a block** with plain attributes is well nested if its body is. -/
lemma decorate_element_nested {head : Head} (h : head.IsPlain ctx.readAttributes) {name : Text}
    (hname : IsElementName name) {body after : Text} (hbody : WellNested body)
    (hafter : WellNested after) :
    Upholds WellNested admitted (ctx.decorate head [] (elementHtml name body after)) := by
  obtain ⟨attributes, hplain, hdecorate⟩ :=
    decorate_tagged_eq_ok h hname (body ++ tagged ('/' :: name) after)
  rw [elementHtml, hdecorate]
  exact WellNested.element hname hplain hbody hafter

/-- Text between tags: line feeds and escaped text. -/
lemma wellNested_feed : WellNested ['\n'] := wellNested_of_notMem (by decide)

lemma wellNested_cons_feed {text : Text} (h : WellNested text) : WellNested ('\n' :: text) :=
  wellNested_feed.append h

/-- An element that is written as it stands, in front of a well-nested text. -/
lemma elementHtml_nested {name : Text} (hname : IsElementName name) {body after : Text}
    (hbody : WellNested body) (hafter : WellNested after) :
    WellNested (elementHtml name body after) := by
  have hnone : Attributes.IsPlain [] := nofun
  have h := WellNested.element hname hnone hbody hafter
  have hbare : decoratedHtml name [] body after = elementHtml name body after := by
    show tagged (name ++ []) _ = _
    rw [List.append_nil, elementHtml]
  rwa [hbare] at h

/-! ### Paragraphs and code -/

lemma paragraph_nested {convert : Converter} {lines : List Text}
    (h : WellNested (convert (.lines lines))) : WellNested (paragraphHtml convert lines) := by
  have hname : IsElementName ['p'] := isElementName_of_mem _ (by decide)
  exact elementHtml_nested hname h wellNested_feed

lemma codeHtml_eq {language : Option Text} (hlanguage : language.getD [] = []) (classPrefix : Option Text)
    (lines : List Text) :
    codeHtml language classPrefix lines
      = elementHtml "pre" (elementHtml "code" (Text.join "\n" (lines.map (Entity.escape true))) [])
          "\n" := by
  have hnone : codeClassAttribute language classPrefix = [] := by
    cases language with
    | none => rfl
    | some language =>
        obtain rfl : language = [] := hlanguage
        rfl
  unfold codeHtml
  rw [hnone]
  generalize Text.join "\n" (lines.map (Entity.escape true)) = escaped
  simp [elementHtml, tagged]

lemma escaped_nested (lines : List Text) :
    WellNested (Text.join "\n" (lines.map (Entity.escape true))) := by
  have hfeed : ∀ c ∈ "\n".toList, Entity.isInert c = true := by decide
  have hinert : ∀ c ∈ Text.join "\n" (lines.map (Entity.escape true)), Entity.isInert c = true := by
    rw [Text.forall_mem_join hfeed, List.forall_mem_map]
    exact fun line _ c hc => Entity.isInert_of_mem_escape hc
  exact wellNested_of_notMem fun h => absurd (hinert _ h) (by decide)

/-! ### Tables -/

/-- An opening tag of a cell, with the style that an alignment asks for. -/
def OpensCell (tag : Text) (align : Option Text) : Prop :=
  (∀ c ∈ tag ++ cellStyle align, isTagChar c = true) ∧ tagRole (tag ++ cellStyle align) = .opens tag

lemma opensCell_none {tag : Text} (htag : tag ∈ ["th".toList, "td".toList]) :
    OpensCell tag none := by
  revert tag
  rw [List.forall_mem_cons, List.forall_mem_singleton]
  exact ⟨⟨by decide, by decide⟩, by decide, by decide⟩

lemma opensCell_word {tag : Text} (htag : tag ∈ ["th".toList, "td".toList])
    (alignment : Alignment) : OpensCell tag (some alignment.word) := by
  revert tag
  rw [List.forall_mem_cons, List.forall_mem_singleton]
  cases alignment <;> exact ⟨⟨by decide, by decide⟩, by decide, by decide⟩

lemma opensCell_alignWords {tag : Text} (htag : tag ∈ ["th".toList, "td".toList]) (grid : Grid) :
    ∀ align ∈ grid.alignWords, OpensCell tag align := by
  intro align halign
  obtain ⟨alignment, -, rfl⟩ := List.mem_map.mp halign
  cases alignment with
  | none => exact opensCell_none htag
  | some alignment => exact opensCell_word htag alignment

lemma renderCell_eq (convert : Converter) (tag : Text) (align : Option Text) (cell : Text) :
    renderCell convert tag align cell
      = tagged (tag ++ cellStyle align) (convert (.text cell) ++ tagged ('/' :: tag) []) := by
  unfold renderCell
  generalize convert (.text cell) = content
  simp [tagged]

/-- **A row is made of its cells**, each with the alignment of its column or none. -/
lemma exists_cells (convert : Converter) (tag : Text) (aligns : List (Option Text))
    (row : List Text) :
    ∃ cells : List Text, renderCells convert tag aligns row = cells.flatten
      ∧ ∀ html ∈ cells, ∃ align cell, (align = none ∨ align ∈ aligns) ∧ cell ∈ row
        ∧ html = renderCell convert tag align cell := by
  induction row generalizing aligns with
  | nil => exact ⟨[], by rw [renderCells, List.flatten_nil], nofun⟩
  | cons cell row ih =>
      obtain ⟨cells, hcells, heach⟩ := ih aligns.tail
      refine ⟨renderCell convert tag (aligns.head?.join) cell :: cells, ?_,
        List.forall_mem_cons.mpr ⟨⟨_, cell, ?_, List.mem_cons_self, rfl⟩, fun html hhtml => ?_⟩⟩
      · cases aligns <;> simpa [renderCells] using hcells
      · cases aligns <;> simp
      · obtain ⟨align, other, halign, hother, hhtml⟩ := heach html hhtml
        exact ⟨align, other, halign.imp_right List.mem_of_mem_tail, List.mem_cons_of_mem _ hother,
          hhtml⟩

section Tables

variable {convert : Converter} {tag : Text} (htag : tag ∈ ["th".toList, "td".toList])
include htag

lemma isElementName_cell : IsElementName tag := by
  revert tag
  rw [List.forall_mem_cons, List.forall_mem_singleton]
  exact ⟨isElementName_of_mem _ (by decide), isElementName_of_mem _ (by decide)⟩

lemma renderCell_nested {align : Option Text} (halign : OpensCell tag align) {cell : Text}
    (hcell : WellNested (convert (.text cell))) :
    WellNested (renderCell convert tag align cell) := by
  have hname := isElementName_cell htag
  have hclosing : ∀ c ∈ '/' :: tag, isTagChar c = true :=
    List.forall_mem_cons.mpr ⟨by decide, fun c hc => (hname.chars c hc).1⟩
  have h := hcell.enclose halign.1 halign.2 hclosing hname.tagRole_closing
    (wellNested_of_notMem List.not_mem_nil)
  rwa [renderCell_eq]

lemma renderCells_nested {aligns : List (Option Text)}
    (haligns : ∀ align ∈ aligns, OpensCell tag align) {row : List Text}
    (hrow : ∀ cell ∈ row, WellNested (convert (.text cell))) :
    WellNested (renderCells convert tag aligns row) := by
  obtain ⟨cells, hcells, heach⟩ := exists_cells convert tag aligns row
  rw [hcells]
  refine wellNested_flatten fun html hhtml => ?_
  obtain ⟨align, cell, halign, hcell, rfl⟩ := heach html hhtml
  refine renderCell_nested htag ?_ (hrow cell hcell)
  rcases halign with rfl | halign
  · exact opensCell_none htag
  · exact haligns align halign

lemma renderRows_nested {aligns : List (Option Text)}
    (haligns : ∀ align ∈ aligns, OpensCell tag align) {rows : List (List Text)}
    (hrows : ∀ row ∈ rows, ∀ cell ∈ row, WellNested (convert (.text cell))) :
    WellNested (renderRows convert tag aligns rows) := by
  have hname : IsElementName "tr" := isElementName_of_mem _ (by decide)
  rw [renderRows, List.flatMap]
  refine wellNested_flatten fun html hhtml => ?_
  obtain ⟨row, hrow, rfl⟩ := List.mem_map.mp hhtml
  have hcells := renderCells_nested htag haligns (hrows row hrow)
  have heq : renderRow convert tag aligns row
      = elementHtml "tr" ('\n' :: (renderCells convert tag aligns row ++ ['\n'])) "\n" := by
    unfold renderRow
    generalize renderCells convert tag aligns row = cells
    simp [elementHtml, tagged]
  rw [heq]
  exact elementHtml_nested hname (wellNested_cons_feed (hcells.append wellNested_feed))
    wellNested_feed

end Tables

lemma columns_nested (grid : Grid) : WellNested grid.columns := by
  have hname : IsElementName "colgroup" := isElementName_of_mem _ (by decide)
  have hcolumn : WellNested (tagged ['c', 'o', 'l'] ['\n']) :=
    wellNested_feed.alone (by decide) (by decide)
  have heq : ∀ columns : Text, "<colgroup>\n".toList ++ columns ++ "</colgroup>\n".toList
      = elementHtml "colgroup" ('\n' :: columns) "\n" := fun columns => by
    simp [elementHtml, tagged]
  unfold Grid.columns
  rw [heq]
  refine elementHtml_nested hname (wellNested_cons_feed ?_) wellNested_feed
  refine wellNested_flatten fun html hhtml => ?_
  rw [List.eq_of_mem_replicate hhtml]
  exact hcolumn

lemma headSection_nested {convert : Converter} {grid : Grid}
    (h : ∀ cell ∈ grid.header.getD [], WellNested (convert (.text cell))) :
    WellNested (grid.headSection convert) := by
  have hname : IsElementName "thead" := isElementName_of_mem _ (by decide)
  have heq : ∀ rows : Text, "<thead>\n".toList ++ rows ++ "</thead>\n".toList
      = elementHtml "thead" ('\n' :: rows) "\n" := fun rows => by
    simp [elementHtml, tagged]
  rw [Grid.headSection]
  cases hheader : grid.header with
  | none => exact wellNested_of_notMem List.not_mem_nil
  | some row =>
      rw [hheader, Option.getD_some] at h
      have htag : "th".toList ∈ ["th".toList, "td".toList] := by decide
      have hrows := renderRows_nested htag (opensCell_alignWords htag grid)
        (List.forall_mem_singleton.mpr h)
      simp only [heq]
      exact elementHtml_nested hname (wellNested_cons_feed hrows) wellNested_feed

/-- A table, from its own tag on. -/
lemma table_nested {head : Head} (h : head.IsPlain ctx.readAttributes) {grid : Grid}
    (hcells : ∀ cell ∈ grid.cells, WellNested (ctx.convert (.text cell))) :
    Ensures (fun rendered => WellNested rendered.html) admitted (ctx.table head grid) := by
  have hname : IsElementName "table" := isElementName_of_mem _ (by decide)
  have htag : "td".toList ∈ ["th".toList, "td".toList] := by decide
  have hhead := headSection_nested fun cell hc => hcells cell (List.mem_append_left _ hc)
  have hrows := renderRows_nested htag (opensCell_alignWords htag grid) fun row hrow cell hc =>
    hcells cell (List.mem_append_right _ (List.mem_flatten_of_mem hrow hc))
  have hinside := wellNested_cons_feed (((columns_nested grid).append hhead).append hrows)
  obtain ⟨attributes, hplain, hdecorate⟩ := decorate_tagged_eq_ok h hname ['\n']
  have hnested := WellNested.element hname hplain hinside wellNested_feed
  refine ensures_liftM ?_
  show Upholds _ admitted (Except.map _ (ctx.decorate head [] (tagged "table" ['\n'])))
  rw [hdecorate]
  show WellNested (tagged ("table" ++ Attributes.inTag attributes) ['\n'] ++ grid.body ctx.convert)
  rw [decoratedHtml] at hnested
  simpa [tagged, Grid.body] using hnested

/-! ### Leaves -/

/-- Markup that the own tag of a block begins. -/
lemma leaf_element_nested {head : Head} (h : head.IsPlain ctx.readAttributes) {name : Text}
    (hname : IsElementName name) {html body after : Text} (hhtml : html = elementHtml name body after)
    (hbody : WellNested body) (hafter : WellNested after) :
    Ensures (fun rendered => WellNested rendered.html) admitted (ctx.leaf head html) := by
  rw [hhtml]
  exact ensures_liftM ((decorate_element_nested h hname hbody hafter).map fun _ hnested => hnested)

lemma heading_nested {head : Head} (h : head.IsPlain ctx.readAttributes) (level : Int)
    {content : Text} (hcontent : WellNested (ctx.convert (.text content))) :
    Ensures (fun rendered => WellNested rendered.html) admitted
      (ctx.heading head level content) := by
  refine leaf_element_nested h (isElementName_heading level) ?_ hcontent wellNested_feed
  generalize ctx.convert (.text content) = converted
  generalize Text.integer level = digits
  simp [elementHtml, tagged]

lemma ruler_nested {head : Head} (h : head.IsPlain ctx.readAttributes) (mark : RulerMark) :
    Ensures (fun rendered => WellNested rendered.html) admitted (ctx.ruler head mark) := by
  have hdefaults : Attributes.IsPlain (Context.rulerDefaults mark) := by
    cases mark <;> decide
  obtain ⟨attributes, hresolve, hplain⟩ := h.resolveWith hdefaults
  have hspliced : ctx.decorate head (Context.rulerDefaults mark) "<hr/>\n"
      = .ok (tagged ("hr".toList ++ Attributes.inTag attributes ++ ['/']) ['\n']) := by
    rw [Context.decorate, decorate_ruler, hresolve]
    simp [Except.map, tagged]
  have hchars : ∀ c ∈ "hr".toList ++ Attributes.inTag attributes ++ ['/'], isTagChar c = true := by
    simp only [List.forall_mem_append]
    exact ⟨⟨by decide, Attributes.isTagChar_of_mem_inTag hplain⟩, by decide⟩
  -- The slash stays behind the attributes and makes the tag stand alone.
  have hrole : tagRole ("hr".toList ++ Attributes.inTag attributes ++ ['/']) = .alone := by
    rw [tagRole, List.getLast?_concat, if_pos rfl]
  refine ensures_liftM ?_
  rw [hspliced]
  exact wellNested_feed.alone hchars hrole

/-- **Leaves** with ordinary markup are well nested if their converted texts are. -/
lemma leaf_nested {block : Block} (hleaf : block.isLeaf = true)
    (hordinary : block.HasOrdinaryMarkup ctx.readAttributes)
    (hspans : ∀ span ∈ block.spans, WellNested (ctx.convert span)) :
    Ensures (Part.Shows WellNested) admitted (renderBlock ctx block) := by
  cases block with
  | para head lines =>
      have hname : IsElementName ['p'] := isElementName_of_mem _ (by decide)
      have hspan := hspans _ List.mem_cons_self
      exact (leaf_element_nested hordinary hname rfl hspan wellNested_feed).part
  | heading head level content =>
      exact (heading_nested hordinary level (hspans _ List.mem_cons_self)).part
  | code head lines language =>
      have hpre : IsElementName "pre" := isElementName_of_mem _ (by decide)
      have hcode : IsElementName "code" := isElementName_of_mem _ (by decide)
      have hinside := elementHtml_nested hcode (escaped_nested lines)
        (wellNested_of_notMem List.not_mem_nil)
      exact (leaf_element_nested hordinary.1 hpre (codeHtml_eq hordinary.2 _ _) hinside
        wellNested_feed).part
  | ruler head mark => exact (ruler_nested hordinary mark).part
  | table head grid =>
      refine (table_nested hordinary fun cell hc => hspans _ ?_).part
      exact List.mem_map_of_mem hc
  | attributeList head content =>
      exact fun _ => ⟨_, rfl, paragraph_nested (hspans _ List.mem_cons_self)⟩
  | linkTarget head id url title =>
      exact fun _ => ⟨[], rfl, wellNested_of_notMem List.not_mem_nil⟩
  | html head lines => exact nomatch hordinary
  | htmlOther head lines => exact nomatch hordinary
  | plugin head lines handler => exact nomatch hordinary
  | foreign typeName => exact nomatch hordinary
  | quote head blocks => exact nomatch hleaf
  | list head kind blocks => exact nomatch hleaf
  | item head kind blocks spaced => exact nomatch hleaf
  | footnotes head notes => exact nomatch hleaf

/-! ### Containers -/

section

variable (P : Text → Prop) (hdrop : ∀ text, P text → P (dropParagraphTags text))
include hdrop

/-- The markup of a list item is an element; a tight one has no paragraph tags. -/
lemma itemHtml_eq (tight : Bool) {content : Text} (h : P content) :
    ∃ body, P body ∧ itemHtml tight content = elementHtml "li" body "\n" := by
  cases tight with
  | false =>
      refine ⟨content, h, ?_⟩
      unfold itemHtml
      simp [elementHtml, tagged]
  | true =>
      refine ⟨dropParagraphTags content, hdrop content h, ?_⟩
      unfold itemHtml
      simp [elementHtml, tagged]

/-- **Containers put an element around their children.** What is inside has a property of these that
does not depend on paragraph tags, or on a line feed in front. -/
lemma Block.Holds.around_eq (hfeed : ∀ text, P text → P ('\n' :: text)) {block : Block}
    {head : Head} {around : Text → Text} {blocks : List Block} (h : block.Holds head around blocks)
    {content : Text} (hcontent : P content) :
    ∃ name body, IsElementName name ∧ P body ∧ around content = elementHtml name body ['\n'] := by
  cases h with
  | quote =>
      refine ⟨"blockquote", content, isElementName_of_mem _ (by decide), hcontent, ?_⟩
      unfold quoteHtml
      simp [elementHtml, tagged]
  | list _ kind =>
      refine ⟨kind.word, '\n' :: content, isElementName_word kind, hfeed content hcontent, ?_⟩
      unfold listHtml
      simp [elementHtml, tagged]
  | item _ kind _ spaced =>
      obtain ⟨body, hbody, heq⟩ := itemHtml_eq P hdrop (isTight spaced blocks.length) hcontent
      exact ⟨"li", body, isElementName_of_mem _ (by decide), hbody, heq⟩

end

lemma keepsAround_nested {head : Head} (h : head.IsPlain ctx.readAttributes) {around : Text → Text}
    (haround : ∀ content, WellNested content → ∃ name body, IsElementName name ∧ WellNested body
      ∧ around content = elementHtml name body ['\n']) :
    ctx.KeepsAround WellNested admitted head around := by
  intro content hcontent
  obtain ⟨name, body, hname, hbody, heq⟩ := haround content hcontent
  rw [heq]
  exact decorate_element_nested h hname hbody wellNested_feed

/-- Containers with plain attributes keep markup well nested. -/
lemma Block.Holds.keepsAround_nested {block : Block} {head : Head} {around : Text → Text}
    {blocks : List Block} (h : block.Holds head around blocks)
    (hplain : head.IsPlain ctx.readAttributes) :
    ctx.KeepsAround WellNested admitted head around :=
  BlockTree.keepsAround_nested hplain fun _ hcontent =>
    h.around_eq WellNested (fun _ => WellNested.dropParagraphTags) (fun _ => wellNested_cons_feed) hcontent

lemma footnotesHtml_nested {list : Text} (h : WellNested list) :
    WellNested (footnotesHtml list) := by
  have heq : footnotesHtml list
      = tagged "div class=\"footnotes\"" (('\n' :: tagged "hr" ('\n' :: (list ++ ['\n'])))
          ++ tagged "/div" []) := by
    simp [footnotesHtml, Text.join, tagged]
  have hinside : WellNested ('\n' :: tagged "hr" ('\n' :: (list ++ ['\n']))) :=
    wellNested_cons_feed ((wellNested_cons_feed (h.append wellNested_feed)).alone (by decide)
      (by decide))
  have hopens : tagRole "div class=\"footnotes\"" = .opens "div" := by decide
  rw [heq]
  exact hinside.enclose (by decide) hopens (by decide) (by decide)
    (wellNested_of_notMem List.not_mem_nil)

/-! ### Documents -/

/-- The attributes of the item of a note are plain to the own grammar. -/
lemma itemHead_isPlain_readList (note : Note) : note.itemHead.IsPlain Attributes.readList := by
  refine ⟨[("id", [Markup.noteId note.number])], ?_, Attributes.isPlain_iff.mpr ?_⟩
  · rw [Note.itemHead, Attributes.Spec.resolve, Attributes.readStrict, readList_noteId]
    rfl
  · rw [List.forall_mem_singleton]
    have hid : ∀ c ∈ "id".toList, isTagChar c = true := by decide
    refine ⟨hid, List.forall_mem_singleton.mpr fun c hc => ?_⟩
    have hopening : c ≠ '<' := Text.ne_of_class (isIdChar_of_mem_noteId hc) (by decide)
    have hclosing : c ≠ '>' := Text.ne_of_class (isIdChar_of_mem_noteId hc) (by decide)
    simp [isTagChar, hopening, hclosing]

lemma itemHead_isPlain {reader : Attributes.Reader} {head : Head} {notes : List Note}
    (h : (Block.footnotes head notes).HasOrdinaryMarkup reader) {note : Note}
    (hnote : note ∈ notes) : note.itemHead.IsPlain reader := by
  rcases h with rfl | hall
  · exact itemHead_isPlain_readList note
  · exact hall note hnote

/-- The paragraph that the return link goes into is ordinary if the blocks of the note are. -/
lemma linkedHead_isPlain {note : Note}
    (h : ∀ child ∈ note.blocks, child.HasOrdinaryMarkup ctx.readAttributes) :
    note.linked.head.IsPlain ctx.readAttributes := by
  rcases note.linked_cases with ⟨lines, hblocks⟩ | ⟨-, hhead⟩
  · refine h (.para note.linked.head lines) ?_
    rw [hblocks]
    exact List.mem_append_right _ List.mem_cons_self
  · rw [hhead]
    exact ⟨[], rfl, nofun⟩

/-- **Every block** with ordinary nodes is well nested, whatever it holds. -/
theorem renderBlock_nested (block : Block)
    (hordinary : ∀ node ∈ block.nodes, node.HasOrdinaryMarkup ctx.readAttributes)
    (hspans : ∀ node ∈ block.nodes, ∀ span ∈ node.spans, WellNested (ctx.convert span))
    (hnumbers : ∀ node ∈ block.nodes, ¬ node.HasWritableNumbers →
      admitted (.other (.badValue Text.tooLongToWrite))) :
    Ensures (Part.Shows WellNested) admitted (renderBlock ctx block) := by
  have hnodes : ∀ node ∈ block.nodes, node.HasOrdinaryMarkup ctx.readAttributes
      ∧ (∀ span ∈ node.spans, WellNested (ctx.convert span))
      ∧ (¬ node.HasWritableNumbers → admitted (.other (.badValue Text.tooLongToWrite))) :=
    fun node hn => ⟨hordinary node hn, hspans node hn, hnumbers node hn⟩
  refine renderBlock_ensures (fun _ => wellNested_flatten) (fun leaf hleaf h => ?_)
    (fun node head around blocks hholds h => ?_) (fun head notes h hinside => ?_) block hnodes
  · exact leaf_nested hleaf h.1 h.2.1
  · exact hholds.keepsAround_nested (hholds.isPlain h.1)
  · obtain ⟨hfootnotes, hlinks, hlong⟩ := h
    refine ⟨hlong, fun note hn => ?_, fun note hn => ?_,
      (Block.Holds.list {} .numbered []).keepsAround_nested ⟨[], rfl, nofun⟩,
      fun list => footnotesHtml_nested⟩
    · refine leaf_nested rfl (linkedHead_isPlain fun child hc => (hinside note hn child hc).1) ?_
      exact List.forall_mem_singleton.mpr (hlinks _ (List.mem_map_of_mem hn))
    · refine keepsAround_nested (itemHead_isPlain hfootnotes hn) fun content hcontent => ?_
      obtain ⟨body, hbody, heq⟩ :=
        itemHtml_eq WellNested (fun _ => WellNested.dropParagraphTags) false hcontent
      exact ⟨"li", body, isElementName_of_mem _ (by decide), hbody, heq⟩

end

/-- **Well-nested documents**: if the renderer writes all tags of a document but those of the
converter, with plain attributes, and the converter gives well-nested markup for each of its texts,
then the markup of the document is well nested, at any depth, with tight and loose items, under any
dispatch. The one thing that can keep such a document from being rendered is a footnote number that
is too long to be written. -/
theorem renderBlocks_wellNested (ctx : Context) (blocks : List Block)
    (hordinary : ∀ node ∈ nodesOf blocks, node.HasOrdinaryMarkup ctx.readAttributes)
    (hspans : ∀ node ∈ nodesOf blocks, ∀ span ∈ node.spans, WellNested (ctx.convert span))
    (journal : Journal) :
    (∃ rendered, (renderBlocks ctx blocks journal).1 = .ok rendered ∧ WellNested rendered.html)
      ∨ ((renderBlocks ctx blocks journal).1 = .error (.other (.badValue Text.tooLongToWrite))
        ∧ ∃ node ∈ nodesOf blocks, ¬ node.HasWritableNumbers) := by
  have hensures : Ensures (Concatenates WellNested)
      (fun fault => fault = .other (.badValue Text.tooLongToWrite)
        ∧ ∃ node ∈ nodesOf blocks, ¬ node.HasWritableNumbers) (renderBlocks ctx blocks) := by
    rw [renderBlocks, renderEach_eq_map]
    refine ctx.renderSiblings_ensures fun sibling hs => ?_
    obtain ⟨block, hb, rfl⟩ := List.mem_map.mp hs
    have hmem : ∀ node ∈ block.nodes, node ∈ nodesOf blocks := fun node => mem_nodesOf_of_mem hb
    exact renderBlock_nested block (fun node hn => hordinary node (hmem node hn))
      (fun node hn => hspans node (hmem node hn)) fun node hn hlong => ⟨rfl, node, hmem node hn, hlong⟩
  have hjournal := hensures journal
  cases hresult : (renderBlocks ctx blocks journal).1 with
  | error fault =>
      rw [hresult] at hjournal
      obtain ⟨rfl, hnode⟩ := hjournal
      exact Or.inr ⟨rfl, hnode⟩
  | ok rendered =>
      rw [hresult] at hjournal
      obtain ⟨texts, htexts, hnested⟩ := hjournal
      refine Or.inl ⟨rendered, rfl, ?_⟩
      rw [htexts]
      exact wellNested_flatten hnested

/-- A tight item, a loose one with a quotation, and a note. -/
theorem renderBlocks_wellNested_items :
    ∃ rendered, (renderBlocks {}
        [.list {} .bulleted
          [.item { attributes := .written ".a" } .bulleted [.para {} ["*x* <br>"]] false,
            .item {} .bulleted [.quote {} [.para {} ["y"]], .ruler {} .thin] true],
          .footnotes {} [.mk none 1 [.para {} ["n"]]]] []).1 = .ok rendered
      ∧ WellNested rendered.html := by
  have hnodes := renderBlocks_wellNested {}
    [.list {} .bulleted
      [.item { attributes := .written ".a" } .bulleted [.para {} ["*x* <br>"]] false,
        .item {} .bulleted [.quote {} [.para {} ["y"]], .ruler {} .thin] true],
      .footnotes {} [.mk none 1 [.para {} ["n"]]]]
    (by
      have habsent : Head.IsPlain Attributes.readList {} := ⟨[], rfl, nofun⟩
      have hclass : Head.IsPlain Attributes.readList { attributes := .written ['.', 'a'] } :=
        ⟨[("class", ["a"])], by decide +kernel, by decide⟩
      simp [nodesOf, nodesOfNotes, Block.nodes, Block.HasOrdinaryMarkup, habsent, hclass])
    (by
      simp only [nodesOf, nodesOfNotes, Block.nodes, Block.spans, List.append_nil, List.cons_append,
        List.nil_append, List.forall_mem_cons, List.map_cons, List.map_nil]
      decide +kernel) []
  have hone : Text.isWritable 1 = true := by decide
  refine hnodes.resolve_right ?_
  rintro ⟨-, hnode⟩
  simp [nodesOf, nodesOfNotes, Block.nodes, Block.HasWritableNumbers, Note.number, hone] at hnode

end BlockTree
