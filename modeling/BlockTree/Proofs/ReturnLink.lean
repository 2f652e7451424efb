import BlockTree.Proofs.Concatenation
import BlockTree.Proofs.OwnTag
import BlockTree.Proofs.SealedText

/-!
The return link of a note in the standard conversion.

* `isSealed_returnLink` and `spans_returnLink`: the link behind a last line is a sealed text, and it
  is read as the spans that it consists of.
* `renderLine_withReturnLink` and `standard_withReturnLink`: so it comes out as it was put in, and
  the line in front of it is converted as it would be without it.
* `exists_linked`: a note whose blocks are rendered is rendered with its link as well, whatever the
  converter; `Note.Linked` says to which markup.
* `renderBlocks_appendReturnLink`: in the standard conversion only the link is new in that markup.
-/

namespace BlockTree

namespace Inline

/-! ### The spans of the link -/

/-- What stands in the opening tag of a return link. -/
def insideReturnLink (number : Int) : Text :=
  "a href=\"#" ++ Markup.referenceId number
    ++ "\" title=\"return to article\" class=\"reversefootnote\""

lemma returnLink_eq (number : Int) :
    Markup.returnLink number
      = Span.source (.tag (tagged (insideReturnLink number) []))
        ++ ("&#x21A9;".toList ++ (Span.source (.tag (tagged "/a" [])) ++ [])) := by
  unfold Markup.returnLink insideReturnLink
  generalize Markup.referenceId number = id
  simp [Span.source, tagged]

lemma isTagChar_of_mem_referenceId {number : Int} :
    ∀ c ∈ Markup.referenceId number, Span.isTagChar c = true := by
  show ∀ c ∈ "fnref:".toList ++ Text.integer number, Span.isTagChar c = true
  rw [List.forall_mem_append]
  exact ⟨by decide, fun c hc => isTagChar_of_isInert (isInert_of_mem_integer hc)⟩

lemma isTag_opensReturnLink (number : Int) :
    (Span.tag (tagged (insideReturnLink number) [])).IsTag := by
  refine ⟨_, rfl, [], 'a', _, rfl, Or.inl rfl, by decide, ?_⟩
  show ∀ c ∈ " href=\"#".toList ++ Markup.referenceId number
    ++ "\" title=\"return to article\" class=\"reversefootnote\"".toList, Span.isTagChar c = true
  rw [List.forall_mem_append, List.forall_mem_append]
  exact ⟨⟨by decide, isTagChar_of_mem_referenceId⟩, by decide⟩

lemma isTag_closesLink : (Span.tag (tagged "/a" [])).IsTag :=
  ⟨"/a", rfl, ['/'], 'a', [], rfl, Or.inr rfl, by decide, nofun⟩

/-- **The link** is read as two tags with a reference between them. -/
lemma spans_returnLink (number : Int) :
    spans (Markup.returnLink number)
      = [.tag (tagged (insideReturnLink number) []), .running "&#x21A9;",
          .tag (tagged "/a" [])] := by
  have hplain : ∀ c ∈ "&#x21A9;".toList, Span.isOpening c = false := by decide
  rw [returnLink_eq, spans_of_read? (Span.read?_of_isTag (isTag_opensReturnLink number) _),
    spans_plain_append hplain, spans_of_read? (Span.read?_of_isTag isTag_closesLink []), spans]
  rfl

/-! ### The link behind a line -/

/-- **The link behind a line** is a sealed text. -/
lemma isSealed_returnLink (number : Int) : IsSealed ("&nbsp;" ++ Markup.returnLink number) where
  head := rfl
  unmarked := by
    have hnumber : ∀ c ∈ Text.integer number, isSpanMark c = false := by
      intro c hc
      rcases Text.mem_integer hc with rfl | hdigit
      · decide
      · have hne : ∀ d : Char, d.isDigit = false → c ≠ d := fun d => Text.ne_of_class hdigit
        simp [isSpanMark, hne '\x60' rfl, hne '!' rfl, hne '[' rfl, hne ']' rfl, hne '^' rfl,
          hne '(' rfl, hne ')' rfl]
    show ∀ c ∈ "&nbsp;".toList ++ ("<a href=\"#".toList ++ ("fnref:".toList ++ Text.integer number)
      ++ "\" title=\"return to article\" class=\"reversefootnote\">&#x21A9;</a>".toList),
      isSpanMark c = false
    simp only [List.forall_mem_append]
    exact ⟨by decide, ⟨by decide, by decide, hnumber⟩, by decide⟩
  angle := by
    have hrun : ∀ c ∈ "&nbsp;".toList, Span.isTagChar c = true := by decide
    rw [returnLink_eq, List.dropWhile_append_of_pos hrun]
    exact fun h => nomatch h

section

variable (footnotes : Entries Int)

lemma renderLine_returnLink (number : Int) :
    renderLine footnotes (Markup.returnLink number) = Markup.returnLink number := by
  have harrow : formatText "&#x21A9;" = "&#x21A9;" := by decide +kernel
  rw [renderLine, spans_returnLink, returnLink_eq]
  simp only [List.flatMap_cons, List.flatMap_nil, renderSpan, harrow]
  rfl

/-- **A line with the link behind it** is converted as it is alone, and the link stays. -/
lemma renderLine_withReturnLink (number : Int) (line : Text) :
    renderLine footnotes (line ++ "&nbsp;" ++ Markup.returnLink number)
      = renderLine footnotes line ++ "&nbsp;" ++ Markup.returnLink number := by
  have hplain : ∀ c ∈ "&nbsp;".toList, Span.isOpening c = false := by decide
  have hspace : formatText "&nbsp;" = "&nbsp;" := by decide +kernel
  have hspans : spans ("&nbsp;" ++ Markup.returnLink number)
      = .running "&nbsp;" :: spans (Markup.returnLink number) := by
    rw [spans_plain_append hplain, spans_returnLink]
    rfl
  have hlink : renderLine footnotes ("&nbsp;" ++ Markup.returnLink number)
      = "&nbsp;" ++ Markup.returnLink number := by
    rw [renderLine, hspans, List.flatMap_cons, ← renderLine, renderLine_returnLink, renderSpan,
      hspace]
  rw [List.append_assoc, renderLine_append footnotes (isSealed_returnLink number) hspans rfl
    (by decide) (by decide) line, hlink, List.append_assoc]

lemma renderLines_concat (front : List Text) (line : Text) :
    renderLines footnotes (front ++ [line])
      = front.map (renderInnerLine footnotes) ++ [renderLine footnotes line] := by
  induction front with
  | nil => rfl
  | cons first front ih =>
      have hne : front ++ [line] ≠ [] := List.append_ne_nil_of_right_ne_nil _ (List.cons_ne_nil _ _)
      obtain ⟨next, others, hnext⟩ := List.exists_cons_of_ne_nil hne
      rw [List.cons_append, List.map_cons, List.cons_append, ← ih, hnext, renderLines]
      exact nofun

/-- **Lines with the link behind the last of them** are converted as they are alone, and the link
stays. -/
lemma standard_withReturnLink (number : Int) (front : List Text) (line : Text) :
    Converter.standard footnotes
        (.lines (front ++ [line ++ "&nbsp;" ++ Markup.returnLink number]))
      = Converter.standard footnotes (.lines (front ++ [line])) ++ "&nbsp;"
          ++ Markup.returnLink number := by
  have hjoin : ∀ (parts : List Text) (last tail : Text),
      Text.join ['\n'] (parts ++ [last ++ tail]) = Text.join ['\n'] (parts ++ [last]) ++ tail := by
    intro parts last tail
    induction parts with
    | nil => rfl
    | cons first parts ih =>
        cases parts with
        | nil => simp [Text.join]
        | cons second parts =>
            simp only [List.cons_append, Text.join_cons_cons] at ih ⊢
            rw [ih, List.append_assoc, List.append_assoc, List.append_assoc]
  rw [Converter.standard, Converter.standard, Content.toLines, Content.toLines,
    renderLines_concat, renderLines_concat, renderLine_withReturnLink]
  rw [List.append_assoc (renderLine footnotes line), hjoin, List.append_assoc]

/-- The link alone comes out as it was put in. -/
lemma standard_returnLink (number : Int) :
    Converter.standard footnotes (.lines [Markup.returnLink number])
      = Markup.returnLink number := by
  rw [Converter.standard, Content.toLines, renderLines, renderLine_returnLink, Text.join]

end

end Inline

/-! ### Paragraphs -/

section

variable (ctx : Context)

/-- The outcome of a paragraph. -/
def Context.paragraphOutcome (head : Head) (lines : List Text) : Except Fault Rendered :=
  (ctx.decorate head [] (paragraphHtml ctx.convert lines)).map fun html => ⟨html, []⟩

lemma Context.para_settles (head : Head) (lines : List Text) :
    Settles (renderBlock ctx (.para head lines))
      ((ctx.paragraphOutcome head lines).map Rendered.part) := by
  rw [renderBlock]
  exact (settles_liftM _).map _

/-- The outcome of a paragraph depends on its lines by what they are converted to, between its
opening and its closing tag. -/
lemma Context.exists_paragraphOutcome {head : Head} {lines : List Text} {rendered : Rendered}
    (h : ctx.paragraphOutcome head lines = .ok rendered) :
    ∃ opening, ∀ lines', ctx.paragraphOutcome head lines'
      = .ok ⟨opening ++ ctx.convert (.lines lines') ++ "</p>\n", []⟩ := by
  have houtcome : ∀ lines', ctx.paragraphOutcome head lines'
      = match head.attributes.resolveWith ctx.readAttributes [] with
        | .ok attributes => .ok ⟨"<p" ++ (Attributes.inTag attributes
            ++ (">" ++ ctx.convert (.lines lines') ++ "</p>\n")), []⟩
        | .error list => .error (.render (.illegalAttributes list)) := by
    intro lines'
    have hhtml : paragraphHtml ctx.convert lines'
        = "<p".toList ++ (">" ++ ctx.convert (.lines lines') ++ "</p>\n") := by
      rw [paragraphHtml]
      rfl
    rw [paragraphOutcome, decorate, hhtml, Attributes.decorate_append (by decide) rfl]
    cases head.attributes.resolveWith ctx.readAttributes [] <;> rfl
  rw [houtcome lines] at h
  cases hresolved : head.attributes.resolveWith ctx.readAttributes [] with
  | error list =>
      rw [hresolved] at h
      cases h
  | ok attributes =>
      refine ⟨"<p" ++ Attributes.inTag attributes ++ ">", fun lines' => ?_⟩
      rw [houtcome lines', hresolved]
      simp

/-- A paragraph without attributes. -/
lemma Context.paragraphOutcome_plain (lines : List Text) :
    ctx.paragraphOutcome {} lines = .ok ⟨paragraphHtml ctx.convert lines, []⟩ := rfl

end

/-! ### Notes with the link -/

/-- The last block of a note is a paragraph with a line. -/
def Note.EndsInLine (note : Note) : Prop :=
  ∃ front head lines line, note.blocks = front ++ [.para head (lines ++ [line])]

/-- **A note is rendered with its link**: its blocks are converted as without it, up to the last line
of the last paragraph, or up to a paragraph of its own for the link. -/
inductive Note.Linked (ctx : Context) (note : Note) (own linked : Rendered) : Prop where
  | inLast (front : List Block) (head : Head) (lines : List Text) (line opening : Text) :
      note.blocks = front ++ [.para head (lines ++ [line])] →
      own.html = opening ++ ctx.convert (.lines (lines ++ [line])) ++ "</p>\n" →
      linked.html = opening ++ ctx.convert
        (.lines (lines ++ [line ++ "&nbsp;" ++ Markup.returnLink note.number])) ++ "</p>\n" →
      linked.messages = own.messages → Linked ctx note own linked
  | inOwn : ¬ note.EndsInLine →
      linked.html = own.html ++ paragraphHtml ctx.convert [Markup.returnLink note.number] →
      linked.messages = own.messages → Linked ctx note own linked

lemma Note.Linked.messages {ctx : Context} {note : Note} {own linked : Rendered}
    (h : note.Linked ctx own linked) : linked.messages = own.messages := by
  cases h <;> assumption

section

variable {ctx : Context} (horder : ctx.dispatch.InOrder)
include horder

/-- The link at the end of a last line. -/
lemma exists_linked_of_line {id : Option Text} {number : Int} {front : List Block} {head : Head}
    {lines : List Text} {line : Text} {s t : Journal} {own : Rendered}
    (hown : renderBlocks ctx (front ++ [.para head (lines ++ [line])]) s = (.ok own, t)) :
    ∃ linked, renderBlocks ctx
        (front ++ [.para head (lines ++ [line ++ "&nbsp;" ++ Markup.returnLink number])]) s
          = (.ok linked, t)
      ∧ (Note.mk id number (front ++ [.para head (lines ++ [line])])).Linked ctx own linked := by
  obtain ⟨before, added, hfront, hadded, rfl⟩ :=
    (renderBlocks_concat horder (ctx.para_settles _ _)).mp hown
  obtain ⟨opening, houtcome⟩ := ctx.exists_paragraphOutcome hadded
  obtain rfl := Except.ok.inj ((houtcome _).symm.trans hadded)
  have hlinked := houtcome (lines ++ [line ++ "&nbsp;" ++ Markup.returnLink number])
  refine ⟨_, (renderBlocks_concat horder (ctx.para_settles _ _)).mpr
    ⟨before, _, hfront, hlinked, rfl⟩, ?_⟩
  refine .inLast front head lines line (before.html ++ opening) rfl ?_ ?_ rfl
  · simp only [List.append_assoc]
  · simp only [List.append_assoc, Note.number]

/-- The link in a paragraph of its own. -/
lemma exists_linked_of_no_line {note : Note} (hends : ¬ note.EndsInLine) {s t : Journal}
    {own : Rendered} (hown : renderBlocks ctx note.blocks s = (.ok own, t)) :
    ∃ linked, renderBlocks ctx (note.blocks ++ [.para {} [Markup.returnLink note.number]]) s
        = (.ok linked, t)
      ∧ note.Linked ctx own linked :=
  ⟨_, (renderBlocks_concat horder (ctx.para_settles _ _)).mpr
    ⟨own, _, hown, ctx.paragraphOutcome_plain _, rfl⟩, .inOwn hends rfl (List.append_nil _)⟩

/-- **In document order**, a note whose blocks are rendered is rendered with its link as well. -/
lemma exists_linked (note : Note) {s t : Journal} {own : Rendered}
    (hown : renderBlocks ctx note.blocks s = (.ok own, t)) :
    ∃ linked, renderBlocks ctx note.withReturnLink s = (.ok linked, t)
      ∧ note.Linked ctx own linked := by
  obtain ⟨id, number, blocks⟩ := note
  by_cases hends : (Note.mk id number blocks).EndsInLine
  · obtain ⟨front, head, lines, line, hblocks⟩ := hends
    obtain rfl : blocks = front ++ [Block.para head (lines ++ [line])] := hblocks
    have hline : (lines ++ [line]).getLast? = some line := List.getLast?_concat
    rw [withReturnLink_of_line hline, List.dropLast_concat]
    exact exists_linked_of_line horder hown
  · have hnone : ∀ head lines, blocks.getLast? = some (.para head lines) →
        lines.getLast? = none := by
      intro head lines hlast
      by_contra hline
      obtain ⟨line, hline⟩ := Option.ne_none_iff_exists'.mp hline
      refine hends ⟨blocks.dropLast, head, lines.dropLast, line, ?_⟩
      rw [List.dropLast_append_getLast? line hline]
      exact (List.dropLast_append_getLast? _ hlast).symm
    rw [withReturnLink_of_no_line hnone]
    exact exists_linked_of_no_line horder hends hown

end

/-- A number that can be written gives blocks with the link. -/
lemma renderBlocks_of_isWritable (ctx : Context) {note : Note}
    (h : Text.isWritable note.number = true) :
    (liftM note.appendReturnLink >>= renderBlocks ctx) = renderBlocks ctx note.withReturnLink := by
  funext s
  rw [Note.appendReturnLink, if_pos h, Action.bind_apply]
  rfl

/-- A number that cannot be written gives none. -/
lemma renderBlocks_of_not_isWritable (ctx : Context) {note : Note}
    (h : Text.isWritable note.number = false) :
    Settles (liftM note.appendReturnLink >>= renderBlocks ctx)
      (.error (.other (.badValue Text.tooLongToWrite))) := by
  intro s
  rw [Note.appendReturnLink, h, if_neg Bool.false_ne_true, Action.bind_apply]
  rfl

/-! ### The standard conversion of notes -/

/-- The context with the standard converter, which knows these footnotes. -/
def Context.withFootnotes (ctx : Context) (footnotes : Entries Int) : Context :=
  { ctx with convert := Inline.Converter.standard footnotes }

/-- **The link is all that is new** in the markup of a note: it stands at the end of the last
paragraph, or in a paragraph of its own. -/
structure Note.LinkAdded (note : Note) (own linked : Rendered) : Prop where
  messages : linked.messages = own.messages
  inLast : note.EndsInLine → ∃ text, own.html = text ++ "</p>\n"
    ∧ linked.html = text ++ "&nbsp;" ++ Markup.returnLink note.number ++ "</p>\n"
  inOwn : ¬ note.EndsInLine →
    linked.html = own.html ++ "<p>" ++ Markup.returnLink note.number ++ "</p>\n"

lemma Note.Linked.linkAdded {ctx : Context} {footnotes : Entries Int} {note : Note}
    {own linked : Rendered} (h : note.Linked (ctx.withFootnotes footnotes) own linked) :
    note.LinkAdded own linked := by
  have hconvert : (ctx.withFootnotes footnotes).convert = Inline.Converter.standard footnotes := rfl
  refine ⟨h.messages, fun hends => ?_, fun hends => ?_⟩
  · cases h with
    | inLast front head lines line opening _ hown hlinked _ =>
        rw [hconvert] at hown hlinked
        refine ⟨_, hown, ?_⟩
        rw [hlinked, Inline.standard_withReturnLink]
        simp only [List.append_assoc]
    | inOwn hnot => exact absurd hends hnot
  · cases h with
    | inLast front head lines line opening hblocks =>
        exact absurd ⟨front, head, lines, line, hblocks⟩ hends
    | inOwn _ hlinked _ =>
        rw [hlinked, paragraphHtml, hconvert, Inline.standard_returnLink]
        simp only [List.append_assoc]

/-- The link adds no handlers. -/
lemma hasPureHandler_of_mem_withReturnLink {note : Note}
    (hpure : ∀ node ∈ nodesOf note.blocks, node.HasPureHandler) :
    ∀ node ∈ nodesOf note.withReturnLink, node.HasPureHandler := by
  intro node hn
  rw [nodesOf_eq_flatMap, List.mem_flatMap] at hn
  obtain ⟨child, hc, hn⟩ := hn
  rcases mem_withReturnLink hc with hc | rfl
  · exact hpure node (mem_nodesOf_of_mem hc hn)
  · rw [Block.nodes_of_isLeaf rfl, List.mem_singleton] at hn
    rw [hn]
    trivial

/-- **The return link in a rendered note.** Where the blocks of a note are rendered, they are
rendered with the link as well, to the same messages and to markup in which only the link is new;
no text at the end of the last line changes the link or is changed by it. The one exception is a
number that cannot be written. -/
theorem renderBlocks_appendReturnLink (ctx : Context) (footnotes : Entries Int) (note : Note)
    (hdispatch : ctx.dispatch.InOrder
      ∨ ctx.dispatch.Exhaustive ∧ ∀ node ∈ nodesOf note.blocks, node.HasPureHandler)
    {s t : Journal} {own : Rendered}
    (hown : renderBlocks (ctx.withFootnotes footnotes) note.blocks s = (.ok own, t)) :
    (Text.isWritable note.number = true →
      ∃ linked, (liftM note.appendReturnLink >>= renderBlocks (ctx.withFootnotes footnotes)) s
          = (.ok linked, t)
        ∧ note.LinkAdded own linked)
    ∧ (Text.isWritable note.number = false →
      (liftM note.appendReturnLink >>= renderBlocks (ctx.withFootnotes footnotes)) s
        = (.error (.other (.badValue Text.tooLongToWrite)), s))
    ∧ ∀ lines line, Inline.Converter.standard footnotes
          (.lines (lines ++ [line ++ "&nbsp;" ++ Markup.returnLink note.number]))
        = Inline.Converter.standard footnotes (.lines (lines ++ [line])) ++ "&nbsp;"
            ++ Markup.returnLink note.number := by
  refine ⟨fun hnumber => ?_, fun hnumber => renderBlocks_of_not_isWritable _ hnumber s,
    Inline.standard_withReturnLink footnotes _⟩
  rw [renderBlocks_of_isWritable _ hnumber]
  rcases hdispatch with horder | ⟨hexhaustive, hpure⟩
  · have hdispatch : (ctx.withFootnotes footnotes).dispatch.InOrder := horder
    obtain ⟨linked, hrendered, hlinked⟩ := exists_linked hdispatch note hown
    exact ⟨linked, hrendered, hlinked.linkAdded⟩
  · -- The sequential dispatch stands in for the other one, as the handlers are pure.
    have hdispatch : (ctx.withFootnotes footnotes).dispatch.Exhaustive := hexhaustive
    have hsequential : renderBlocks
        (Context.withFootnotes { ctx with dispatch := .sequential } footnotes) note.blocks s
          = (.ok own, t) :=
      (renderBlocks_eq_ok_sequential hdispatch hpure).mp hown
    obtain ⟨linked, hrendered, hlinked⟩ :=
      exists_linked Dispatch.inOrder_sequential note hsequential
    have hpure' := hasPureHandler_of_mem_withReturnLink hpure
    exact ⟨linked, (renderBlocks_eq_ok_sequential hdispatch hpure').mpr hrendered,
      hlinked.linkAdded⟩

/-- A line that ends in an open bracket and an open backtick takes in nothing of the link. -/
theorem renderBlocks_appendReturnLink_unclosed :
    ∃ linked, (liftM (Note.mk none 7 [.para {} ["[a `b"]]).appendReturnLink
          >>= renderBlocks (Context.withFootnotes {} [])) [] = (.ok linked, [])
      ∧ linked.html = "<p>[a `b&nbsp;".toList ++ Markup.returnLink 7 ++ "</p>\n" := by
  have hown : renderBlocks (Context.withFootnotes {} [])
      (Note.mk none 7 [.para {} ["[a `b"]]).blocks []
      = (.ok ⟨"<p>[a `b</p>\n", []⟩, []) := by
    refine Prod.ext ?_ rfl
    decide +kernel
  have hlinked := renderBlocks_appendReturnLink {} [] (.mk none 7 [.para {} ["[a `b"]])
    (Or.inl Dispatch.inOrder_sequential) hown
  obtain ⟨linked, hrendered, hadded⟩ := hlinked.1 (by decide)
  obtain ⟨text, htext, hhtml⟩ := hadded.inLast ⟨[], {}, [], "[a `b", rfl⟩
  refine ⟨linked, hrendered, ?_⟩
  have hown : "<p>[a `b".toList ++ "</p>\n" = text ++ "</p>\n" := htext
  rw [hhtml, ← List.append_cancel_right hown]
  rfl

/-- **A number of more digits than the limit**: the blocks of the note are rendered, but there are
none with the link. -/
theorem appendReturnLink_unwritable :
    renderBlocks (Context.withFootnotes {} [])
        (Note.mk none (10 ^ Text.digitLimit) [.para {} ["a"]]).blocks []
      = (.ok ⟨"<p>a</p>\n", []⟩, [])
    ∧ (liftM (Note.mk none (10 ^ Text.digitLimit) [.para {} ["a"]]).appendReturnLink
          >>= renderBlocks (Context.withFootnotes {} [])) []
      = (.error (.other (.badValue Text.tooLongToWrite)), []) := by
  constructor
  · refine Prod.ext ?_ rfl
    decide +kernel
  · exact renderBlocks_of_not_isWritable _ (by rw [Note.number, isWritable_limit]) []

end BlockTree
