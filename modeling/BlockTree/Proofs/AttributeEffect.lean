import BlockTree.Proofs.NestedMarkup

/-!
What the attributes of a block change in its rendering.

* `Block.withAttributes`: a block with other attributes; `Block.ownTag?`: the name of the tag that
  attributes go into, for the kinds of blocks that are one element.
* `RendersInTag`: the rendering of a block as its own tag in front of content that does not depend
  on the attributes. `rendersInTag_of_leaf` and `rendersInTag_of_holds` are the two ways to get there.
* `renderBlock_withAttributes`: attributes that are accepted change nothing but the own tag of a
  block; rulers add their class, and all other kinds have no tag of their own.
-/

namespace BlockTree

/-! ### Blocks with other attributes -/

/-- The head with other attributes. -/
def Head.withAttributes (head : Head) (spec : Attributes.Spec) : Head :=
  { head with attributes := spec }

namespace Block

/-- The block with other attributes. -/
def withAttributes (spec : Attributes.Spec) : Block → Block
  | .para head lines => .para (head.withAttributes spec) lines
  | .heading head level content => .heading (head.withAttributes spec) level content
  | .quote head blocks => .quote (head.withAttributes spec) blocks
  | .code head lines language => .code (head.withAttributes spec) lines language
  | .ruler head mark => .ruler (head.withAttributes spec) mark
  | .list head kind blocks => .list (head.withAttributes spec) kind blocks
  | .item head kind blocks spaced => .item (head.withAttributes spec) kind blocks spaced
  | .table head grid => .table (head.withAttributes spec) grid
  | .html head lines => .html (head.withAttributes spec) lines
  | .htmlOther head lines => .htmlOther (head.withAttributes spec) lines
  | .footnotes head notes => .footnotes (head.withAttributes spec) notes
  | .attributeList head content => .attributeList (head.withAttributes spec) content
  | .linkTarget head id url title => .linkTarget (head.withAttributes spec) id url title
  | .plugin head lines handler => .plugin (head.withAttributes spec) lines handler
  | .foreign typeName => .foreign typeName

/-- The name of the tag that a block begins with, for the blocks that are one element. -/
def ownTag? : Block → Option Text
  | .para _ _ => some "p"
  | .heading _ level _ => some ("h" ++ Text.integer level)
  | .quote _ _ => some "blockquote"
  | .code _ _ _ => some "pre"
  | .list _ kind _ => some kind.word
  | .item _ _ _ _ => some "li"
  | .table _ _ => some "table"
  | _ => none

/-- The blocks whose attributes are never read. -/
def ignoresAttributes : Block → Bool
  | .html _ _ => true
  | .htmlOther _ _ => true
  | .footnotes _ _ => true
  | .attributeList _ _ => true
  | .linkTarget _ _ _ _ => true
  | .plugin _ _ _ => true
  | _ => false

end Block

/-! ### The own tag -/

section

variable {ctx : Context}

/-- Accepted attributes go into the tag that the markup begins with. -/
lemma Context.decorate_of_resolves {name : Text} (hname : IsElementName name) {head : Head}
    {spec : Attributes.Spec} {attributes : Attributes}
    (h : spec.resolve ctx.readAttributes = .ok attributes) (body : Text) :
    ctx.decorate (head.withAttributes spec) [] (tagged name body)
      = .ok (tagged (name ++ Attributes.inTag attributes) body) := by
  rw [decorate, decorate_tagged hname, Head.withAttributes, Attributes.Spec.resolveWith, h]
  rfl

/-- **A block is rendered in its tag**: the content, which is rendered first, does not depend on the
attributes, and accepted attributes are put behind the name of the tag. -/
def RendersInTag (ctx : Context) (block : Block) (name : Text) : Prop :=
  ∃ content : RenderM Rendered, ∀ spec attributes,
    spec.resolve ctx.readAttributes = .ok attributes →
    renderBlock ctx (block.withAttributes spec)
      = (fun inner => ⟨.text (tagged (name ++ Attributes.inTag attributes) inner.html),
          inner.messages⟩) <$> content

lemma rendersInTag_of_leaf {block : Block} {name html body : Text} (hname : IsElementName name)
    (hhtml : html = tagged name body) {head : Head}
    (h : ∀ spec, renderBlock ctx (block.withAttributes spec)
      = Rendered.part <$> ctx.leaf (head.withAttributes spec) html) :
    RendersInTag ctx block name := by
  refine ⟨pure ⟨body, []⟩, fun spec attributes hspec => ?_⟩
  rw [h, Context.leaf, hhtml, Context.decorate_of_resolves hname hspec]
  rfl

lemma Block.Holds.withAttributes {block : Block} {head : Head} {around : Text → Text}
    {blocks : List Block} (h : block.Holds head around blocks) (spec : Attributes.Spec) :
    (block.withAttributes spec).Holds (head.withAttributes spec) around blocks := by
  cases h with
  | quote => exact .quote _ _
  | list => exact .list _ _ _
  | item => exact .item _ _ _ _

lemma rendersInTag_of_holds {block : Block} {head : Head} {around inside : Text → Text}
    {blocks : List Block} {name : Text} (h : block.Holds head around blocks)
    (hname : IsElementName name)
    (haround : ∀ content, around content = tagged name (inside content)) :
    RendersInTag ctx block name := by
  refine ⟨(fun inner => ⟨inside inner.html, inner.messages⟩)
    <$> ctx.renderSiblings (blocks.map (renderBlock ctx)), fun spec attributes hspec => ?_⟩
  rw [renderBlock_of_holds (h.withAttributes spec), Context.container]
  funext s
  simp only [Action.map_apply, Action.bind_apply]
  rcases ctx.renderSiblings (blocks.map (renderBlock ctx)) s with ⟨x | content, t⟩
  · rfl
  · have hwrap : ctx.wrap (head.withAttributes spec) around content t
        = (.ok ⟨tagged (name ++ Attributes.inTag attributes) (inside content.html),
            content.messages⟩, t) := by
      rw [Context.wrap, haround, Context.decorate_of_resolves hname hspec]
      rfl
    simp only [hwrap]
    rfl

lemma rendersInTag_table (head : Head) (grid : Grid) :
    RendersInTag ctx (.table head grid) "table" := by
  have hname : IsElementName "table" := isElementName_of_mem _ (by decide)
  refine ⟨pure ⟨"\n" ++ grid.body ctx.convert, grid.messages head.line⟩,
    fun spec attributes hspec => ?_⟩
  have hopening : ctx.decorate (head.withAttributes spec) [] "<table>\n"
      = .ok (tagged ("table" ++ Attributes.inTag attributes) "\n") :=
    Context.decorate_of_resolves hname hspec "\n"
  have hbody : tagged ("table" ++ Attributes.inTag attributes) "\n" ++ grid.body ctx.convert
      = tagged ("table" ++ Attributes.inTag attributes) ("\n" ++ grid.body ctx.convert) := by
    generalize grid.body ctx.convert = body
    simp [tagged]
  have htable : ctx.table (head.withAttributes spec) grid
      = pure ⟨tagged ("table" ++ Attributes.inTag attributes) ("\n" ++ grid.body ctx.convert),
          grid.messages head.line⟩ := by
    rw [Context.table, hopening, ← hbody]
    rfl
  rw [Block.withAttributes, renderBlock, htable]
  rfl

/-- **Every block that is one element** is rendered in its tag. -/
lemma rendersInTag {block : Block} {name : Text} (h : block.ownTag? = some name) :
    RendersInTag ctx block name := by
  have helement : ∀ name ∈ elementNames, IsElementName name := isElementName_of_mem
  cases block with
  | para head lines =>
      obtain rfl := Option.some.inj h
      exact rendersInTag_of_leaf (helement _ (by decide)) rfl fun spec => rfl
  | heading head level content =>
      obtain rfl := Option.some.inj h
      have hhtml : ∀ tag : Text, "<".toList ++ tag ++ ">" ++ ctx.convert (.text content) ++ "</"
          ++ tag ++ ">\n" = tagged tag (ctx.convert (.text content) ++ "</" ++ tag ++ ">\n") := by
        intro tag
        generalize ctx.convert (.text content) = words
        simp [tagged]
      exact rendersInTag_of_leaf (isElementName_heading level) (hhtml _) fun spec => rfl
  | quote head blocks =>
      obtain rfl := Option.some.inj h
      exact rendersInTag_of_holds (.quote head blocks) (helement _ (by decide)) fun content => rfl
  | code head lines language =>
      obtain rfl := Option.some.inj h
      exact rendersInTag_of_leaf (helement _ (by decide)) rfl fun spec => rfl
  | list head kind blocks =>
      obtain rfl := Option.some.inj h
      have hhtml : ∀ content, listHtml kind content
          = tagged kind.word ("\n" ++ content ++ "</" ++ kind.word ++ ">\n") := fun content => by
        unfold listHtml
        generalize kind.word = word
        simp [tagged]
      exact rendersInTag_of_holds (.list head kind blocks) (isElementName_word kind) hhtml
  | item head kind blocks spaced =>
      obtain rfl := Option.some.inj h
      exact rendersInTag_of_holds (.item head kind blocks spaced) (helement _ (by decide))
        fun content => rfl
  | table head grid =>
      obtain rfl := Option.some.inj h
      exact rendersInTag_table head grid
  | _ => cases h

/-- Accepted attributes of a ruler, with the class of its mark. -/
lemma renderBlock_ruler {spec : Attributes.Spec} {attributes : Attributes}
    (h : spec.resolve ctx.readAttributes = .ok attributes) (head : Head) (mark : RulerMark) :
    Settles (renderBlock ctx ((Block.ruler head mark).withAttributes spec))
      (.ok ⟨.text ("<hr" ++ Attributes.inTag (Attributes.merge attributes
        (Context.rulerDefaults mark)) ++ "/>\n"), []⟩) := by
  have hruler : ctx.decorate (head.withAttributes spec) (Context.rulerDefaults mark) "<hr/>\n"
      = .ok ("<hr" ++ (Attributes.inTag (Attributes.merge attributes
        (Context.rulerDefaults mark)) ++ "/>\n")) := by
    rw [Context.decorate, decorate_ruler, Head.withAttributes, Attributes.Spec.resolveWith, h]
    rfl
  intro s
  rw [Block.withAttributes, renderBlock, Context.ruler, hruler, List.append_assoc]
  rfl

end

/-- **Attributes change the own tag only.** For a block that is one element, accepted attributes put
what they are written as behind the name of the tag that its rendering without attributes begins
with; content, messages, journal and faults stay the same. A ruler has the class of its mark merged
into them, and the other kinds of blocks do not read them. -/
theorem renderBlock_withAttributes (ctx : Context) (block : Block) (spec : Attributes.Spec) :
    (∀ attributes name, spec.resolve ctx.readAttributes = .ok attributes →
      block.ownTag? = some name → ∀ s,
      (∀ fault t, renderBlock ctx (block.withAttributes .absent) s = (.error fault, t) →
        renderBlock ctx (block.withAttributes spec) s = (.error fault, t))
      ∧ ∀ part t, renderBlock ctx (block.withAttributes .absent) s = (.ok part, t) →
        ∃ rest, part.fragment = .text ("<" ++ name ++ ">" ++ rest)
          ∧ renderBlock ctx (block.withAttributes spec) s
            = (.ok ⟨.text ("<" ++ name ++ Attributes.inTag attributes ++ ">" ++ rest),
                part.messages⟩, t))
    ∧ (∀ attributes head mark, spec.resolve ctx.readAttributes = .ok attributes →
      block = .ruler head mark → ∀ s,
      renderBlock ctx (block.withAttributes spec) s
        = (.ok ⟨.text ("<hr" ++ Attributes.inTag (Attributes.merge attributes
            [("class", [mark.className])]) ++ "/>\n"), []⟩, s))
    ∧ (block.ignoresAttributes = true →
      renderBlock ctx (block.withAttributes spec) = renderBlock ctx block) := by
  refine ⟨fun attributes name hspec hname s => ?_, fun attributes head mark hspec hblock s => ?_,
    fun hignores => ?_⟩
  · have hown : RendersInTag ctx block name := rendersInTag hname
    obtain ⟨content, hcontent⟩ := hown
    have hplain := hcontent .absent [] rfl
    rw [hplain, hcontent spec attributes hspec, Action.map_apply, Action.map_apply]
    rcases content s with ⟨x | inner, u⟩
    · exact ⟨fun fault t h => h, fun part t h => (nomatch h)⟩
    · refine ⟨fun fault t h => (nomatch h), fun part t h => ?_⟩
      obtain ⟨hpart, rfl⟩ := Prod.mk_inj.mp h
      obtain rfl := Except.ok.inj hpart
      have htag : ∀ tag, "<".toList ++ tag ++ ">" ++ inner.html = tagged tag inner.html := by
        intro tag
        generalize inner.html = html
        simp [tagged]
      have hown : "<".toList ++ name ++ Attributes.inTag attributes
          = "<" ++ (name ++ Attributes.inTag attributes) := List.append_assoc _ _ _
      refine ⟨inner.html, ?_, ?_⟩
      · rw [htag]
        exact congrArg (fun tag => Fragment.text (tagged tag inner.html)) (List.append_nil name)
      · rw [hown, htag]
        rfl
  · rw [hblock]
    exact renderBlock_ruler hspec head mark s
  · cases block <;> first | rfl | cases hignores

/-- A quotation with an identifier, around markup that holds the ends of other tags, and a ruler. -/
theorem renderBlock_withAttributes_quote :
    renderBlock {} (.quote { attributes := .written "#a" } [.html {} ["/><p>", "</p>"]]) []
        = (.ok ⟨.text "<blockquote id=\"a\">/><p>\n</p></blockquote>\n", []⟩, [])
      ∧ renderBlock {} (.ruler { attributes := .written "#a" } .thin) []
        = (.ok ⟨.text "<hr id=\"a\" class=\"thin\"/>\n", []⟩, []) := by
  have hread : Attributes.Spec.resolve Attributes.readList (.written "#a")
      = .ok [("id", ["a"])] := by
    decide +kernel
  constructor
  · have hplain : renderBlock {} ((Block.quote {} [.html {} ["/><p>", "</p>"]]).withAttributes
        .absent) [] = (.ok ⟨.text "<blockquote>/><p>\n</p></blockquote>\n", []⟩, []) :=
      Prod.ext (by decide +kernel) (by decide +kernel)
    obtain ⟨-, hother⟩ := (renderBlock_withAttributes {} (.quote {} [.html {} ["/><p>", "</p>"]])
      (.written "#a")).1 [("id", ["a"])] "blockquote" hread rfl []
    obtain ⟨rest, hrest, hquoted⟩ := hother _ _ hplain
    have hcontent : "<blockquote>".toList ++ "/><p>\n</p></blockquote>\n"
        = "<blockquote>" ++ rest :=
      Fragment.text.inj hrest
    rw [← List.append_cancel_left hcontent] at hquoted
    exact hquoted
  · exact (renderBlock_withAttributes {} (.ruler {} .thin) (.written "#a")).2.1 [("id", ["a"])] {}
      .thin hread rfl []

end BlockTree
