import BlockTree.Proofs.TightItems

/-!
Which markup has no paragraph tags once they are taken out.

* `IsFirm`: a text in which no start of a paragraph tag stands in front of another `<` or at the end.
  Two of them, one behind the other, are firm (`IsFirm.append`), so is one without its paragraph tags
  (`IsFirm.dropParagraphTags`), and nothing is put together in it (`IsFirm.not_joinsParagraphTag`).
* `Block.HasFirmMarkup`: what is written into the markup of a block as it stands is firm.
* `renderBlock_firm`: then so is the markup of the whole tree, by induction over it.
* `renderBlock_tight_paragraphTags`: when a tight item is left with a paragraph tag.
-/

namespace BlockTree

open Inline (Content Converter)

/-! ### Firm texts -/

/-- **A firm text**: no start of a paragraph tag in it stands in front of a `<`, nor would one if
there were a `<` behind the text. -/
def IsFirm (text : Text) : Prop :=
  ∀ start ∈ paragraphStarts, ¬ start ++ ['<'] <:+: text ++ ['<']

instance (text : Text) : Decidable (IsFirm text) :=
  inferInstanceAs (Decidable (∀ start ∈ paragraphStarts, ¬ start ++ ['<'] <:+: text ++ ['<']))

/-- What a start of a paragraph tag begins with is one too. -/
lemma mem_paragraphStarts_of_append {lead more : Text} (hne : lead ≠ [])
    (h : lead ++ more ∈ paragraphStarts) : lead ∈ paragraphStarts := by
  have hall : ∀ start ∈ paragraphStarts, ∀ lead ∈ start.inits, lead ≠ [] →
      lead ∈ paragraphStarts := by
    decide
  exact hall _ h lead ((List.mem_inits lead _).mpr (List.prefix_append lead more)) hne

lemma exists_eq_cons_of_mem_paragraphStarts {start : Text} (h : start ∈ paragraphStarts) :
    ∃ name, start = '<' :: name ∧ '<' ∉ name ∧ ∀ c ∈ name, c ∈ ['<', '/', 'p'] := by
  have hall : ∀ start ∈ paragraphStarts,
      start = '<' :: start.tail ∧ '<' ∉ start.tail ∧ ∀ c ∈ start.tail, c ∈ ['<', '/', 'p'] := by
    decide
  exact ⟨_, hall start h⟩

namespace IsFirm

lemma of_suffix {text rest : Text} (h : IsFirm text) (hrest : rest <:+ text) : IsFirm rest := by
  intro start hstart hfound
  obtain ⟨front, rfl⟩ := hrest
  refine h start hstart (hfound.trans ?_)
  rw [List.append_assoc]
  exact (List.suffix_append front _).isInfix

/-- A firm text does not end in a start. -/
lemma not_start_suffix {text start : Text} (h : IsFirm text) (hstart : start ∈ paragraphStarts) :
    ¬ start <:+ text := by
  rintro ⟨front, rfl⟩
  exact h start hstart ⟨front, [], by simp⟩

lemma not_start_infix {text start : Text} (h : IsFirm text) (hstart : start ∈ paragraphStarts) :
    ¬ start ++ ['<'] <:+: text :=
  fun hfound => h start hstart (hfound.trans (List.prefix_append text _).isInfix)

/-- A start in the first text ends in it, or what the first text has of it is a start as well. -/
lemma append {front back : Text} (hfront : IsFirm front) (hback : IsFirm back) :
    IsFirm (front ++ back) := by
  rintro start hstart ⟨before, after, h⟩
  simp only [List.append_assoc] at h
  rcases List.append_eq_append_iff.mp h with ⟨inside, rfl, hrest⟩ | ⟨more, rfl, hrest⟩
  · rcases List.append_eq_append_iff.mp hrest with ⟨rest, rfl, hafter⟩ | ⟨rest, rfl, hafter⟩
    · cases rest with
      | nil => exact hfront.not_start_suffix hstart ⟨before, by simp⟩
      | cons c rest =>
          obtain ⟨rfl, -⟩ := List.cons.inj hafter
          exact hfront.not_start_infix hstart ⟨before, rest, by simp⟩
    · by_cases hne : inside = []
      · subst hne
        exact hback rest hstart ⟨[], after, by simp [hafter]⟩
      · exact hfront.not_start_suffix (mem_paragraphStarts_of_append hne hstart) ⟨before, rfl⟩
  · exact hback start hstart ⟨more, after, by simp [hrest]⟩

lemma flatten {texts : List Text} (h : ∀ text ∈ texts, IsFirm text) : IsFirm texts.flatten := by
  induction texts with
  | nil => decide
  | cons text rest ih =>
      rw [List.forall_mem_cons] at h
      exact h.1.append (ih h.2)

end IsFirm

lemma isFirm_of_notMem {text : Text} (h : '<' ∉ text) : IsFirm text := by
  intro start hstart hfound
  obtain ⟨name, rfl, -⟩ := exists_eq_cons_of_mem_paragraphStarts hstart
  have hcount := hfound.sublist.count_le '<'
  simp [List.count_eq_zero_of_not_mem h] at hcount

/-- The beginning of a tag, up to a character that no start of a paragraph tag ends in. -/
lemma isFirm_opening {lead : Text} (hlead : '<' ∉ lead) {last : Char}
    (hlast : last ∉ ['<', '/', 'p']) : IsFirm ('<' :: (lead ++ [last])) := by
  have hopening : '<' ∉ lead ++ [last] := by
    simp only [List.mem_append, List.mem_singleton, not_or]
    exact ⟨hlead, fun h => hlast (h ▸ List.mem_cons_self)⟩
  intro start hstart hfound
  obtain ⟨name, rfl, hname, hlastName⟩ := exists_eq_cons_of_mem_paragraphStarts hstart
  rw [List.cons_append, List.cons_append, List.infix_cons_iff] at hfound
  rcases hfound with hprefix | hfound
  · -- Up to its next `<` the text has the last character, which the start does not have.
    obtain ⟨after, h⟩ := hprefix
    have htail : name ++ '<' :: after = lead ++ [last] ++ '<' :: [] := by simpa using h
    have hcut := congrArg (Text.cut? '<') htail
    rw [Text.cut?_append hname, Text.cut?_append hopening] at hcut
    obtain ⟨rfl, -⟩ := Prod.mk_inj.mp (Option.some.inj hcut)
    exact hlast (hlastName last (by simp))
  · have hcount := hfound.sublist.count_le '<'
    rw [List.count_append, List.count_eq_zero_of_not_mem hopening] at hcount
    simp at hcount

/-- A tag with no `<` inside. -/
lemma isFirm_tagged {tag rest : Text} (htag : '<' ∉ tag) (hrest : IsFirm rest) :
    IsFirm (tagged tag rest) := by
  have htext : tagged tag rest = '<' :: (tag ++ ['>']) ++ rest := by simp [tagged]
  rw [htext]
  exact (isFirm_opening htag (by decide)).append hrest

lemma HasTags.isFirm {text : Text} {tags : List Text} (h : HasTags text tags) : IsFirm text := by
  induction h with
  | nil => decide
  | @char c _ _ hc _ ih =>
      have hfirst : '<' ∉ [c] := by simpa using hc.symm
      exact (isFirm_of_notMem hfirst).append ih
  | tag htag _ ih => exact isFirm_tagged (fun h => absurd (htag _ h) (by decide)) ih

/-- **Nothing is put together** in a firm text. -/
lemma IsFirm.not_joinsParagraphTag {text : Text} (h : IsFirm text) : ¬ JoinsParagraphTag text := by
  rintro ⟨front, start, tag, after, rfl, hstart, -⟩
  exact h.not_start_infix hstart ⟨front, tag ++ '>' :: after, by simp [tagged]⟩

/-- **A firm text stays firm** without its paragraph tags: a start that is left in front of a `<` was
there before, or a part of it was, in front of a tag that is taken out. -/
lemma IsFirm.dropParagraphTags {text : Text} (h : IsFirm text) :
    IsFirm (dropParagraphTags text) := by
  induction text using dropParagraphTags_ind with
  | nil =>
      rw [BlockTree.dropParagraphTags]
      exact h
  | kept c rest hkept ih =>
      have hrest := ih (h.of_suffix (List.suffix_cons c rest))
      rw [dropParagraphTags_of_not_begins hkept]
      intro start hstart hfound
      rw [List.cons_append, List.infix_cons_iff] at hfound
      rcases hfound with hprefix | hfound
      · obtain ⟨name, rfl, -⟩ := exists_eq_cons_of_mem_paragraphStarts hstart
        obtain ⟨after, hafter⟩ := hprefix
        obtain ⟨rfl, hname⟩ : '<' = c
            ∧ name ++ '<' :: after = BlockTree.dropParagraphTags rest ++ ['<'] := by
          simpa using hafter
        by_cases hmem : '<' ∈ rest
        · obtain ⟨lead, more, rfl, hlead⟩ := List.eq_append_cons_of_mem hmem
          -- The start ends where the first `<` is, or something is taken out there.
          have hstarts : '<' :: lead ∈ paragraphStarts := by
            rw [dropParagraphTags_append hlead, List.append_assoc] at hname
            rcases List.append_eq_append_iff.mp hname with ⟨left, rfl, hleft⟩ | ⟨left, rfl, -⟩
            · cases left with
              | nil => rwa [List.append_nil]
              | cons d left =>
                  obtain ⟨rfl, -⟩ := List.cons.inj hleft
                  exact absurd (List.mem_append_right name List.mem_cons_self) hlead
            · exact mem_paragraphStarts_of_append (List.cons_ne_nil '<' lead) hstart
          exact h.not_start_infix hstarts ⟨[], more, by simp⟩
        · have hsame : BlockTree.dropParagraphTags rest = rest := by
            have hdrop := dropParagraphTags_append hmem []
            rwa [List.append_nil, BlockTree.dropParagraphTags, List.append_nil] at hdrop
          rw [hsame] at hname
          exact h _ hstart ⟨[], after, by simp [hname]⟩
      · exact hrest start hstart hfound
  | tag tag after hclose hparagraph ih =>
      have hsuffix : after <:+ tagged tag after := ⟨'<' :: (tag ++ ['>']), by simp [tagged]⟩
      rw [dropParagraphTags_of_tag hclose hparagraph]
      exact ih (h.of_suffix hsuffix)

/-! ### What a block has to keep to -/

/-- **Firm attributes**: once the attributes of a head are accepted, they are written as a firm
text. -/
def Head.HasFirmAttributes (reader : Attributes.Reader) (defaults : Attributes) (head : Head) : Prop :=
  ∀ attributes, head.attributes.resolveWith reader defaults = .ok attributes →
    IsFirm (Attributes.serialize attributes)

lemma Head.IsPlain.hasFirmAttributes {reader : Attributes.Reader} {head : Head}
    (h : head.IsPlain reader) : head.HasFirmAttributes reader [] := by
  have hnone : Attributes.IsPlain [] := nofun
  obtain ⟨attributes, hresolve, hplain⟩ := h.resolveWith hnone
  intro others hothers
  rw [hresolve] at hothers
  obtain rfl := Except.ok.inj hothers
  exact isFirm_of_notMem fun hmem => absurd (hplain _ hmem) (by decide)

namespace Block

/-- **Firm markup**: what a block writes as it stands is firm, that is its attributes, the class of
code, verbatim lines, and what a plugin gives. A footnote list has attributes of its own written
around its notes, which are firm to the own grammar (`itemHead_isPlain_readList`). -/
def HasFirmMarkup (ctx : Context) : Block → Prop
  | .para head _ => head.HasFirmAttributes ctx.readAttributes []
  | .heading head _ _ => head.HasFirmAttributes ctx.readAttributes []
  | .quote head _ => head.HasFirmAttributes ctx.readAttributes []
  | .code head _ language =>
    head.HasFirmAttributes ctx.readAttributes []
      ∧ IsFirm (codeClassAttribute language ctx.classPrefix)
  | .ruler head mark => head.HasFirmAttributes ctx.readAttributes (Context.rulerDefaults mark)
  | .list head _ _ => head.HasFirmAttributes ctx.readAttributes []
  | .item head _ _ _ => head.HasFirmAttributes ctx.readAttributes []
  | .table head _ => head.HasFirmAttributes ctx.readAttributes []
  | .html _ lines => IsFirm (Text.join "\n" lines)
  | .htmlOther _ lines => IsFirm (Text.join "\n" lines)
  | .footnotes _ notes =>
    ctx.readAttributes = Attributes.readList
      ∨ ∀ note ∈ notes, note.itemHead.HasFirmAttributes ctx.readAttributes []
  | .attributeList _ _ => True
  | .linkTarget _ _ _ _ => True
  | .plugin _ lines handler => Ensures (Part.Shows IsFirm) (fun _ => True) (handler.call lines)
  | .foreign _ => True

lemma Holds.hasFirmAttributes {ctx : Context} {block : Block} {head : Head} {around : Text → Text}
    {blocks : List Block} (h : block.Holds head around blocks) (hblock : block.HasFirmMarkup ctx) :
    head.HasFirmAttributes ctx.readAttributes [] := by
  cases h <;> exact hblock

end Block

section

variable {ctx : Context}

/-- A rendering gives firm markup, or fails in whatever way. -/
abbrev GivesFirm (action : RenderM Rendered) : Prop :=
  Ensures (fun rendered => IsFirm rendered.html) (fun _ => True) action

/-! ### Elements -/

lemma Attributes.isFirm_inTag {attributes : Attributes} (h : IsFirm (serialize attributes)) :
    IsFirm (inTag attributes) := by
  rw [inTag]
  split
  · decide
  · exact IsFirm.append (by decide : IsFirm [' ']) h

/-- The tag of an element with firm attributes. -/
lemma isFirm_tagged_inTag {name : Text} (hname : IsElementName name) {attributes : Attributes}
    (h : IsFirm (Attributes.serialize attributes)) {rest : Text} (hrest : IsFirm rest) :
    IsFirm (tagged (name ++ Attributes.inTag attributes) rest) := by
  have hopen : '<' ∉ name := fun hmem => absurd (hname.chars _ hmem).1 (by decide)
  rw [Attributes.inTag]
  split
  · rw [List.append_nil]
    exact isFirm_tagged hopen hrest
  · have htext : tagged (name ++ ' ' :: Attributes.serialize attributes) rest
        = '<' :: (name ++ [' ']) ++ (Attributes.serialize attributes ++ (['>'] ++ rest)) := by
      simp [tagged]
    rw [htext]
    exact (isFirm_opening hopen (by decide)).append
      (h.append ((isFirm_of_notMem (by decide)).append hrest))

lemma decorate_tagged_firm {head : Head} (h : head.HasFirmAttributes ctx.readAttributes [])
    {name : Text} (hname : IsElementName name) {rest : Text} (hrest : IsFirm rest) :
    Upholds IsFirm (fun _ => True) (ctx.decorate head [] (tagged name rest)) := by
  rw [Context.decorate, decorate_tagged hname]
  cases hresolve : head.attributes.resolveWith ctx.readAttributes [] with
  | error list => trivial
  | ok attributes => exact isFirm_tagged_inTag hname (h attributes hresolve) hrest

lemma leaf_firm {head : Head} (h : head.HasFirmAttributes ctx.readAttributes []) {name : Text}
    (hname : IsElementName name) {html rest : Text} (hhtml : html = tagged name rest)
    (hrest : IsFirm rest) : GivesFirm (ctx.leaf head html) := by
  rw [hhtml]
  exact ensures_liftM ((decorate_tagged_firm h hname hrest).map fun _ hfirm => hfirm)

/-- The closing tag of an element, with what follows it. -/
lemma isFirm_closing {name : Text} (hname : IsElementName name) {rest : Text}
    (hrest : IsFirm rest) : IsFirm (tagged ('/' :: name) rest) := by
  refine isFirm_tagged ?_ hrest
  rw [List.mem_cons, not_or]
  exact ⟨by decide, fun hmem => absurd (hname.chars _ hmem).1 (by decide)⟩

/-! ### Leaves -/

lemma paragraph_firm {convert : Converter} {lines : List Text}
    (h : IsFirm (convert (.lines lines))) : IsFirm (convert (.lines lines) ++ "</p>\n") :=
  h.append (by decide)

lemma heading_firm {head : Head} (h : head.HasFirmAttributes ctx.readAttributes []) (level : Int)
    {content : Text} (hcontent : IsFirm (ctx.convert (.text content))) :
    GivesFirm (ctx.heading head level content) := by
  have hname := isElementName_heading level
  refine leaf_firm h hname ?_ (hcontent.append (isFirm_closing hname (by decide : IsFirm ['\n'])))
  generalize ctx.convert (.text content) = converted
  generalize Text.integer level = digits
  simp [tagged]

lemma code_firm {head : Head} (h : head.HasFirmAttributes ctx.readAttributes []) (lines : List Text)
    {language : Option Text} (hclass : IsFirm (codeClassAttribute language ctx.classPrefix)) :
    GivesFirm (ctx.code head lines language) := by
  have hname : IsElementName "pre" := isElementName_of_mem _ (by decide)
  have hescaped := escaped_nested lines
  obtain ⟨tags, htags, -⟩ := hescaped
  have hrest : IsFirm ("<code".toList ++ (codeClassAttribute language ctx.classPrefix
      ++ (">".toList ++ (Text.join "\n" (lines.map (Entity.escape true)) ++ "</code></pre>\n")))) :=
    IsFirm.append (by decide)
      (hclass.append (IsFirm.append (by decide) (htags.isFirm.append (by decide))))
  refine leaf_firm h hname ?_ hrest
  unfold codeHtml
  generalize Text.join "\n" (lines.map (Entity.escape true)) = escaped
  simp [tagged]

lemma ruler_firm {head : Head} {mark : RulerMark}
    (h : head.HasFirmAttributes ctx.readAttributes (Context.rulerDefaults mark)) :
    GivesFirm (ctx.ruler head mark) := by
  refine ensures_liftM (Upholds.map ?_ fun _ hfirm => hfirm)
  rw [Context.decorate, decorate_ruler]
  cases hresolve : head.attributes.resolveWith ctx.readAttributes (Context.rulerDefaults mark) with
  | error list => trivial
  | ok attributes =>
      have hattributes := Attributes.isFirm_inTag (h attributes hresolve)
      exact IsFirm.append (by decide) (hattributes.append (by decide))

/-! ### Tables -/

lemma renderCells_firm {convert : Converter} {tag : Text} (htag : tag ∈ ["th".toList, "td".toList])
    (grid : Grid) {row : List Text} (hrow : ∀ cell ∈ row, IsFirm (convert (.text cell))) :
    IsFirm (renderCells convert tag grid.alignWords row) := by
  obtain ⟨cells, hcells, heach⟩ := exists_cells convert tag grid.alignWords row
  rw [hcells]
  refine IsFirm.flatten fun html hhtml => ?_
  obtain ⟨align, cell, halign, hcell, rfl⟩ := heach html hhtml
  have hopens : OpensCell tag align := by
    rcases halign with rfl | halign
    · exact opensCell_none htag
    · exact opensCell_alignWords htag grid align halign
  rw [renderCell_eq]
  exact isFirm_tagged (fun hmem => absurd (hopens.1 _ hmem) (by decide))
    ((hrow cell hcell).append (isFirm_closing (isElementName_cell htag) (by decide)))

lemma renderRows_firm {convert : Converter} {tag : Text} (htag : tag ∈ ["th".toList, "td".toList])
    (grid : Grid) {rows : List (List Text)}
    (hrows : ∀ row ∈ rows, ∀ cell ∈ row, IsFirm (convert (.text cell))) :
    IsFirm (renderRows convert tag grid.alignWords rows) := by
  rw [renderRows, List.flatMap]
  refine IsFirm.flatten fun html hhtml => ?_
  obtain ⟨row, hrow, rfl⟩ := List.mem_map.mp hhtml
  exact (IsFirm.append (by decide) (renderCells_firm htag grid (hrows row hrow))).append (by decide)

lemma columns_firm (grid : Grid) : IsFirm grid.columns := by
  have hcolumns : IsFirm (List.replicate grid.alignments.length "<col>\n".toList).flatten := by
    refine IsFirm.flatten fun html hhtml => ?_
    rw [List.eq_of_mem_replicate hhtml]
    decide
  exact (IsFirm.append (by decide) hcolumns).append (by decide)

lemma headSection_firm {convert : Converter} {grid : Grid}
    (h : ∀ cell ∈ grid.header.getD [], IsFirm (convert (.text cell))) :
    IsFirm (grid.headSection convert) := by
  rw [Grid.headSection]
  cases hheader : grid.header with
  | none => exact isFirm_of_notMem List.not_mem_nil
  | some row =>
      rw [hheader, Option.getD_some] at h
      have hrows := renderRows_firm (by decide : "th".toList ∈ _) grid (List.forall_mem_singleton.mpr h)
      exact (IsFirm.append (by decide) hrows).append (by decide)

lemma table_firm {head : Head} (h : head.HasFirmAttributes ctx.readAttributes []) {grid : Grid}
    (hcells : ∀ cell ∈ grid.cells, IsFirm (ctx.convert (.text cell))) :
    GivesFirm (ctx.table head grid) := by
  have hname : IsElementName "table" := isElementName_of_mem _ (by decide)
  have hhead := headSection_firm fun cell hc => hcells cell (List.mem_append_left _ hc)
  have hrows := renderRows_firm (by decide : "td".toList ∈ _) grid fun row hrow cell hc =>
    hcells cell (List.mem_append_right _ (List.mem_flatten_of_mem hrow hc))
  have hbody : IsFirm (grid.body ctx.convert) :=
    (((columns_firm grid).append hhead).append hrows).append (by decide)
  exact ensures_liftM ((decorate_tagged_firm h hname (by decide : IsFirm ['\n'])).map
    fun opening hopening => hopening.append hbody)

/-- **Leaves** with firm markup are firm if their converted texts are. -/
lemma leaf_gives_firm {block : Block} (hleaf : block.isLeaf = true)
    (hmarkup : block.HasFirmMarkup ctx) (hspans : ∀ span ∈ block.spans, IsFirm (ctx.convert span)) :
    Ensures (Part.Shows IsFirm) (fun _ => True) (renderBlock ctx block) := by
  cases block with
  | para head lines =>
      have hname : IsElementName ['p'] := isElementName_of_mem _ (by decide)
      exact (leaf_firm hmarkup hname rfl (paragraph_firm (hspans _ List.mem_cons_self))).part
  | heading head level content =>
      exact (heading_firm hmarkup level (hspans _ List.mem_cons_self)).part
  | code head lines language => exact (code_firm hmarkup.1 lines hmarkup.2).part
  | ruler head mark => exact (ruler_firm hmarkup).part
  | table head grid =>
      refine (table_firm hmarkup fun cell hc => hspans _ ?_).part
      exact List.mem_map_of_mem hc
  | attributeList head content =>
      have hname : '<' ∉ ['p'] := by decide
      exact fun _ => ⟨_, rfl,
        isFirm_tagged hname (paragraph_firm (hspans _ List.mem_cons_self))⟩
  | linkTarget head id url title => exact fun _ => ⟨[], rfl, by decide⟩
  | html head lines => exact fun _ => ⟨_, rfl, hmarkup⟩
  | htmlOther head lines => exact fun _ => ⟨_, rfl, hmarkup⟩
  | plugin head lines handler => exact hmarkup
  | foreign typeName => exact fun _ => trivial
  | quote head blocks => exact nomatch hleaf
  | list head kind blocks => exact nomatch hleaf
  | item head kind blocks spaced => exact nomatch hleaf
  | footnotes head notes => exact nomatch hleaf

/-! ### Containers -/

lemma keepsAround_firm {head : Head} (h : head.HasFirmAttributes ctx.readAttributes [])
    {around : Text → Text} (haround : ∀ content, IsFirm content → ∃ name body, IsElementName name
      ∧ IsFirm body ∧ around content = elementHtml name body ['\n']) :
    ctx.KeepsAround IsFirm (fun _ => True) head around := by
  intro content hcontent
  obtain ⟨name, body, hname, hbody, heq⟩ := haround content hcontent
  rw [heq, elementHtml]
  exact decorate_tagged_firm h hname (hbody.append (isFirm_closing hname (by decide)))

lemma Block.Holds.keepsAround_firm {block : Block} {head : Head} {around : Text → Text}
    {blocks : List Block} (h : block.Holds head around blocks)
    (hhead : head.HasFirmAttributes ctx.readAttributes []) :
    ctx.KeepsAround IsFirm (fun _ => True) head around :=
  BlockTree.keepsAround_firm hhead fun _ hcontent =>
    h.around_eq IsFirm (fun _ => IsFirm.dropParagraphTags)
      (fun _ hfirm => IsFirm.append (by decide : IsFirm ['\n']) hfirm) hcontent

lemma hasFirmAttributes_absent (reader : Attributes.Reader) :
    Head.HasFirmAttributes reader [] {} := by
  have hplain : Head.IsPlain reader {} := ⟨[], rfl, nofun⟩
  exact hplain.hasFirmAttributes

/-- The paragraph that the return link goes into has firm markup if the blocks of the note have. -/
lemma linkedHead_hasFirmAttributes {note : Note}
    (h : ∀ child ∈ note.blocks, child.HasFirmMarkup ctx) :
    note.linked.head.HasFirmAttributes ctx.readAttributes [] := by
  rcases note.linked_cases with ⟨lines, hblocks⟩ | ⟨-, hhead⟩
  · refine h (.para note.linked.head lines) ?_
    rw [hblocks]
    exact List.mem_append_right _ List.mem_cons_self
  · rw [hhead]
    exact hasFirmAttributes_absent _

lemma itemHead_hasFirmAttributes {head : Head} {notes : List Note}
    (h : (Block.footnotes head notes).HasFirmMarkup ctx) {note : Note} (hnote : note ∈ notes) :
    note.itemHead.HasFirmAttributes ctx.readAttributes [] := by
  rcases h with hread | hall
  · rw [hread]
    exact (itemHead_isPlain_readList note).hasFirmAttributes
  · exact hall note hnote

lemma footnotesHtml_firm {list : Text} (h : IsFirm list) : IsFirm (footnotesHtml list) := by
  have heq : footnotesHtml list
      = "<div class=\"footnotes\">\n<hr>\n".toList ++ (list ++ "\n</div>".toList) := by
    simp [footnotesHtml, Text.join]
  rw [heq]
  exact IsFirm.append (by decide) (h.append (by decide))

/-- **Every block** with firm markup gives a firm text, whatever it holds. -/
theorem renderBlock_firm (block : Block) (hmarkup : ∀ node ∈ block.nodes, node.HasFirmMarkup ctx)
    (hspans : ∀ node ∈ block.nodes, ∀ span ∈ node.spans, IsFirm (ctx.convert span)) :
    Ensures (Part.Shows IsFirm) (fun _ => True) (renderBlock ctx block) := by
  have hnodes : ∀ node ∈ block.nodes, node.HasFirmMarkup ctx
      ∧ ∀ span ∈ node.spans, IsFirm (ctx.convert span) :=
    fun node hn => ⟨hmarkup node hn, hspans node hn⟩
  refine renderBlock_ensures (fun _ => IsFirm.flatten) (fun leaf hleaf h => ?_)
    (fun node head around blocks hholds h => ?_) (fun head notes h hinside => ?_) block hnodes
  · exact leaf_gives_firm hleaf h.1 h.2
  · exact hholds.keepsAround_firm (hholds.hasFirmAttributes h.1)
  · obtain ⟨hfootnotes, hlinks⟩ := h
    refine ⟨fun _ => trivial, fun note hn => ?_, fun note hn => ?_,
      (Block.Holds.list {} .numbered []).keepsAround_firm (hasFirmAttributes_absent _),
      fun list => footnotesHtml_firm⟩
    · have hhead := linkedHead_hasFirmAttributes fun child hc => (hinside note hn child hc).1
      refine leaf_gives_firm rfl hhead ?_
      exact List.forall_mem_singleton.mpr (hlinks _ (List.mem_map_of_mem hn))
    · refine keepsAround_firm (itemHead_hasFirmAttributes hfootnotes hn) fun content hcontent => ?_
      obtain ⟨body, hbody, heq⟩ :=
        itemHtml_eq IsFirm (fun _ => IsFirm.dropParagraphTags) false hcontent
      exact ⟨"li", body, isElementName_of_mem _ (by decide), hbody, heq⟩

/-- What siblings with firm markup are joined to. -/
lemma renderBlocks_firm {blocks : List Block}
    (hmarkup : ∀ node ∈ nodesOf blocks, node.HasFirmMarkup ctx)
    (hspans : ∀ node ∈ nodesOf blocks, ∀ span ∈ node.spans, IsFirm (ctx.convert span)) {s t : Journal}
    {rendered : Rendered} (h : renderBlocks ctx blocks s = (.ok rendered, t)) :
    IsFirm rendered.html := by
  have hensures : Ensures (Concatenates IsFirm) (fun _ => True) (renderBlocks ctx blocks) := by
    rw [renderBlocks, renderEach_eq_map]
    refine ctx.renderSiblings_ensures fun sibling hs => ?_
    obtain ⟨block, hb, rfl⟩ := List.mem_map.mp hs
    exact renderBlock_firm block (fun node hn => hmarkup node (mem_nodesOf_of_mem hb hn))
      fun node hn => hspans node (mem_nodesOf_of_mem hb hn)
  have hs := hensures s
  rw [h] at hs
  obtain ⟨texts, htexts, hfirm⟩ := hs
  rw [htexts]
  exact IsFirm.flatten hfirm

lemma isFirm_standard (footnotes) (content : Content) :
    IsFirm (Converter.standard footnotes content) := by
  obtain ⟨tags, htags⟩ := Inline.exists_hasTags_standard footnotes content
  exact htags.isFirm

end

/-- **Paragraph tags in a tight item**: an item with a single child that is rendered shows what the
child is rendered to, without the paragraph tags that are found in a single pass. A paragraph tag is
left exactly if the pass puts one together from the start of one and what stands behind a tag that it
takes out. It does not where all that the nodes below the item write as it stands is firm, and what
the converter gives; the standard converter gives nothing else. -/
theorem renderBlock_tight_paragraphTags (ctx : Context) {head : Head} {kind : ListKind}
    {child : Block} {s t : Journal} {part : Part}
    (h : renderBlock ctx (.item head kind [child] false) s = (.ok part, t)) :
    (∃ own content, head.attributes.resolve ctx.readAttributes = .ok own
      ∧ renderBlocks ctx [child] s = (.ok content, t)
      ∧ part = ⟨.text ("<li" ++ Attributes.inTag own ++ ">" ++ dropParagraphTags content.html
          ++ "</li>\n"), content.messages⟩
      ∧ (HasParagraphTag (dropParagraphTags content.html) ↔ JoinsParagraphTag content.html)
      ∧ ((∀ node ∈ child.nodes, node.HasFirmMarkup ctx) →
        (∀ node ∈ child.nodes, ∀ span ∈ node.spans, IsFirm (ctx.convert span)) →
        ¬ HasParagraphTag (dropParagraphTags content.html)))
    ∧ ∀ footnotes span, IsFirm (Converter.standard footnotes span) := by
  obtain ⟨own, content, hown, hblocks, hpart⟩ := renderBlock_item_of_ok h
  refine ⟨⟨own, content, hown, hblocks, hpart, hasParagraphTag_dropParagraphTags_iff,
    fun hmarkup hspans => ?_⟩, isFirm_standard⟩
  have hnodes : nodesOf [child] = child.nodes := by
    rw [nodesOf, nodesOf, List.append_nil]
  have hfirm := renderBlocks_firm (hnodes ▸ hmarkup) (hnodes ▸ hspans) hblocks
  exact fun hhas => hfirm.not_joinsParagraphTag (hasParagraphTag_dropParagraphTags_iff.mp hhas)

/-- A list with a loose item of a paragraph, in a tight item. -/
theorem renderBlock_tight_paragraphTags_list :
    renderBlock {} (.item {} .bulleted
        [.list {} .bulleted [.item {} .bulleted [.para {} ["*x* < y"]] true]] false) []
      = (.ok ⟨.text "<li><ul>\n<li><em>x</em> &lt; y\n</li>\n</ul>\n</li>\n", []⟩, [])
    ∧ ∃ content, renderBlocks {}
        [.list {} .bulleted [.item {} .bulleted [.para {} ["*x* < y"]] true]] [] = (.ok content, [])
      ∧ ¬ HasParagraphTag (dropParagraphTags content.html) := by
  have hrun : renderBlock {} (.item {} .bulleted
        [.list {} .bulleted [.item {} .bulleted [.para {} ["*x* < y"]] true]] false) []
      = (.ok ⟨.text "<li><ul>\n<li><em>x</em> &lt; y\n</li>\n</ul>\n</li>\n", []⟩, []) :=
    Prod.ext (by decide +kernel) (by decide +kernel)
  obtain ⟨⟨own, content, -, hblocks, -, -, hnone⟩, hstandard⟩ :=
    renderBlock_tight_paragraphTags {} hrun
  refine ⟨hrun, content, hblocks, hnone ?_ fun node _ span _ => hstandard [] span⟩
  have habsent : Head.HasFirmAttributes Attributes.readList [] {} := hasFirmAttributes_absent _
  simp [Block.nodes, nodesOf, Block.HasFirmMarkup, habsent]

/-- **Verbatim lines** in which a paragraph tag is put together. -/
theorem tight_item_with_joined_paragraphTag :
    renderBlock {} (.item {} .bulleted [.html {} ["<<p>p>x"]] false) []
      = (.ok ⟨.text ("<li>" ++ "<p>x" ++ "</li>\n"), []⟩, [])
    ∧ HasParagraphTag "<p>x" ∧ ¬ HasParagraphTag "x" ∧ ¬ IsFirm "<<p>p>x" := by
  exact ⟨Prod.ext (by decide +kernel) (by decide +kernel), by decide, by decide, by decide⟩

end BlockTree
