import BlockTree.Proofs.FirstFault
import BlockTree.Proofs.Order

/-!
The messages of a rendering.

* `Block.gather`: the messages of a block, gathered by a walk through the tree that renders nothing:
  irregular rows of tables, and the messages of handlers, which are called one after another.
* `renderBlock_messages`: a block that is rendered has the messages of that walk.
* `Block.bare`: the block without attributes, with all its items spaced; the walk does not see the
  difference.
* `renderBlocks_messages`: the messages of a document are those of the walk, and the same for every
  document with the same bare blocks, under every converter, reader, prefix and order-preserving
  dispatch.
-/

namespace BlockTree

/-! ### Irregular rows -/

/-- The warning about a row with this label, if it has not one cell per column. -/
def Grid.rowMessage (line : Int) (grid : Grid) (label : Text) (row : List Text) : List Message :=
  if row.length = grid.alignments.length then []
  else
    [⟨.warning, line, "table " ++ label ++ " has " ++ Text.decimal row.length ++ " cells, expected "
      ++ Text.decimal grid.alignments.length⟩]

/-- **The irregular rows of a table**: the header first, then the rows of the body, numbered from
one. -/
def Grid.irregular (line : Int) (grid : Grid) : List Message :=
  (grid.header.elim [] (grid.rowMessage line "header row"))
    ++ (grid.rows.zipIdx 1).flatMap fun entry =>
      grid.rowMessage line ("body row " ++ Text.decimal entry.2) entry.1

namespace Grid

variable (line : Int) (grid : Grid)

/-- The warnings about labelled rows, row by row. -/
lemma rowWarnings_eq (rows : List (Text × List Text)) :
    (rows.filter fun labelled => labelled.2.length ≠ grid.alignments.length).map
        (fun labelled => rowWarning line grid.alignments.length labelled.1 labelled.2.length)
      = rows.flatMap fun labelled => grid.rowMessage line labelled.1 labelled.2 := by
  induction rows with
  | nil => rfl
  | cons labelled rest ih =>
      rw [List.flatMap_cons, ← ih, rowMessage]
      by_cases h : labelled.2.length = grid.alignments.length
      · rw [List.filter_cons_of_neg (by simp [h]), if_pos h, List.nil_append]
      · rw [List.filter_cons_of_pos (by simp [h]), if_neg h, List.map_cons]
        rfl

lemma labelRows_eq (number : Nat) (rows : List (List Text)) :
    labelRows number rows
      = (rows.zipIdx number).map fun entry => ("body row " ++ Text.decimal entry.2, entry.1) := by
  induction rows generalizing number with
  | nil => rfl
  | cons row rest ih => rw [labelRows, ih, List.zipIdx_cons, List.map_cons]

lemma messages_eq_irregular : grid.messages line = grid.irregular line := by
  rw [messages, rowWarnings_eq, labelled, labelRows_eq, List.flatMap_append, List.flatMap_map,
    irregular]
  cases grid.header with
  | none => rfl
  | some row => rw [List.flatMap_singleton]; rfl

end Grid

/-! ### The walk -/

/-- The messages in a reply. -/
def Reply.messages : Reply → List Message
  | .rendered part => part.messages
  | _ => []

mutual

/-- **The messages of a block**, and the journal after its handlers were called in document order. -/
def Block.gather : Block → Journal → List Message × Journal
  | .quote _ blocks, s => gatherEach blocks s
  | .list _ _ blocks, s => gatherEach blocks s
  | .item _ _ blocks _, s => gatherEach blocks s
  | .footnotes _ notes, s => gatherNotes notes s
  | .table head grid, s => (grid.irregular head.line, s)
  | .plugin _ lines handler, s =>
    ((handler.render lines s).1.messages, (handler.render lines s).2)
  | _, s => ([], s)

/-- The messages of siblings. -/
def gatherEach : List Block → Journal → List Message × Journal
  | [], s => ([], s)
  | block :: rest, s =>
    ((block.gather s).1 ++ (gatherEach rest (block.gather s).2).1,
      (gatherEach rest (block.gather s).2).2)

/-- The messages of the blocks of notes. -/
def gatherNotes : List Note → Journal → List Message × Journal
  | [], s => ([], s)
  | .mk _ _ blocks :: rest, s =>
    ((gatherEach blocks s).1 ++ (gatherNotes rest (gatherEach blocks s).2).1,
      (gatherNotes rest (gatherEach blocks s).2).2)

end

lemma gatherNotes_cons (note : Note) (rest : List Note) (s : Journal) :
    gatherNotes (note :: rest) s
      = ((gatherEach note.blocks s).1 ++ (gatherNotes rest (gatherEach note.blocks s).2).1,
        (gatherNotes rest (gatherEach note.blocks s).2).2) := by
  obtain ⟨id, number, blocks⟩ := note
  rw [gatherNotes, Note.blocks]

lemma gatherEach_append (front back : List Block) (s : Journal) :
    gatherEach (front ++ back) s
      = ((gatherEach front s).1 ++ (gatherEach back (gatherEach front s).2).1,
        (gatherEach back (gatherEach front s).2).2) := by
  induction front generalizing s with
  | nil => rfl
  | cons block rest ih => rw [List.cons_append, gatherEach, ih, gatherEach, List.append_assoc]

lemma Block.Holds.gather_eq {block : Block} {head : Head} {around : Text → Text}
    {blocks : List Block} (h : block.Holds head around blocks) (s : Journal) :
    block.gather s = gatherEach blocks s := by
  cases h <;> rw [Block.gather]

/-- Nothing is gathered from the return link. -/
lemma gatherEach_withReturnLink (note : Note) (s : Journal) :
    gatherEach note.withReturnLink s = gatherEach note.blocks s := by
  have hpara : ∀ front head lines, gatherEach (front ++ [.para head lines]) s
      = gatherEach front s := by
    intro front head lines
    have hlast : ∀ u, gatherEach [.para head lines] u = ([], u) := fun u => rfl
    rw [gatherEach_append, hlast, List.append_nil]
  exact Note.withReturnLink_eq (f := fun blocks => gatherEach blocks s)
    (fun front head lines lines' => by rw [hpara, hpara]) (fun front lines => hpara front {} lines)
    note

/-! ### Rendering and gathering -/

/-- What a rendering gives has the messages that a walk gathers, and leaves its journal. -/
def Gathers (action : RenderM Part) (walk : Journal → List Message × Journal) : Prop :=
  ∀ s t part, action s = (.ok part, t) → walk s = (part.messages, t)

lemma evaluates_gatherEach {ctx : Context} {blocks : List Block}
    (h : ∀ block ∈ blocks, Gathers (renderBlock ctx block) block.gather) {s t : Journal}
    {parts : List Part} (heval : Evaluates (blocks.map (renderBlock ctx)) s parts t) :
    gatherEach blocks s = (parts.flatMap Part.messages, t) := by
  induction blocks generalizing s parts with
  | nil =>
      cases heval
      rfl
  | cons block rest ih =>
      rw [List.map_cons] at heval
      cases heval with
      | cons hfirst hrest =>
          rw [gatherEach, h block List.mem_cons_self _ _ _ hfirst,
            ih (fun b hb => h b (List.mem_cons_of_mem _ hb)) hrest, List.flatMap_cons]

lemma evaluates_gatherNotes {item : Note → RenderM Part} {notes : List Note}
    (h : ∀ note ∈ notes, Gathers (item note) (gatherEach note.blocks)) {s t : Journal}
    {parts : List Part} (heval : Evaluates (notes.map item) s parts t) :
    gatherNotes notes s = (parts.flatMap Part.messages, t) := by
  induction notes generalizing s parts with
  | nil =>
      cases heval
      rfl
  | cons note rest ih =>
      rw [List.map_cons] at heval
      cases heval with
      | cons hfirst hrest =>
          rw [gatherNotes_cons, h note List.mem_cons_self _ _ _ hfirst,
            ih (fun n hn => h n (List.mem_cons_of_mem _ hn)) hrest, List.flatMap_cons]

section

variable {ctx : Context}

lemma container_gathers (horder : ctx.dispatch.InOrder) (head : Head) (around : Text → Text)
    {blocks : List Block} (h : ∀ block ∈ blocks, Gathers (renderBlock ctx block) block.gather) :
    Gathers (Rendered.part <$> ctx.container head around (blocks.map (renderBlock ctx)))
      (gatherEach blocks) := by
  intro s t part hpart
  obtain ⟨rendered, hrendered, rfl⟩ := Action.map_eq_ok.mp hpart
  obtain ⟨parts, heval, hmessages⟩ := ctx.container_ok horder hrendered
  rw [evaluates_gatherEach h heval, ← hmessages]
  rfl

lemma footnotes_gathers (horder : ctx.dispatch.InOrder) (numbers : List Int)
    {item : Note → RenderM Part} {notes : List Note}
    (h : ∀ note ∈ notes, Gathers (item note) (gatherEach note.blocks)) :
    Gathers (Rendered.part <$> ctx.footnotes numbers (notes.map item)) (gatherNotes notes) := by
  intro s t part hpart
  obtain ⟨rendered, hrendered, rfl⟩ := Action.map_eq_ok.mp hpart
  rw [Context.footnotes] at hrendered
  split at hrendered
  · obtain ⟨list, hlist, rfl⟩ := Action.map_eq_ok.mp hrendered
    obtain ⟨parts, heval, hmessages⟩ := ctx.container_ok horder hlist
    rw [evaluates_gatherNotes h heval, ← hmessages]
    rfl
  · simp at hrendered

lemma decorated_gathers (head : Head) (defaults : Attributes) (html : Text)
    {finish : Text → Rendered} {messages : List Message}
    (h : ∀ decorated, (finish decorated).messages = messages) :
    Gathers (Rendered.part <$>
      (liftM ((ctx.decorate head defaults html).map finish) : RenderM Rendered))
      fun s => (messages, s) := by
  intro s t part hpart
  obtain ⟨rendered, hrendered, rfl⟩ := Action.map_eq_ok.mp hpart
  rw [Action.liftM_apply, Action.end_inj] at hrendered
  obtain ⟨hfinish, rfl⟩ := hrendered
  obtain ⟨decorated, -, rfl⟩ := map_eq_ok_iff.mp hfinish
  exact congrArg (·, s) (h decorated).symm

lemma text_gathers (html : Text) :
    Gathers (pure ⟨.text html, []⟩ : RenderM Part) fun s => ([], s) := by
  intro s t part hpart
  rw [Action.pure_apply, Action.end_inj] at hpart
  obtain ⟨hpart, rfl⟩ := hpart
  rw [← Except.ok.inj hpart]

lemma handler_gathers (head : Head) (lines : List Text) (handler : Handler) :
    Gathers (handler.call lines) (Block.plugin head lines handler).gather := by
  intro s t part hpart
  have hcall : ((handler.render lines s).1.settle handler.label, (handler.render lines s).2)
      = (.ok part, t) := hpart
  obtain ⟨hsettle, rfl⟩ := Prod.mk_inj.mp hcall
  rw [Block.gather, Reply.settle_eq_ok.mp hsettle]
  rfl

lemma leaf_gathers {block : Block} (hleaf : block.isLeaf = true) :
    Gathers (renderBlock ctx block) block.gather := by
  cases block with
  | para head lines => exact decorated_gathers head _ _ fun _ => rfl
  | heading head level content => exact decorated_gathers head _ _ fun _ => rfl
  | code head lines language => exact decorated_gathers head _ _ fun _ => rfl
  | ruler head mark => exact decorated_gathers head _ _ fun _ => rfl
  | table head grid =>
      exact decorated_gathers head _ _ fun _ => grid.messages_eq_irregular head.line
  | html head lines => exact text_gathers _
  | htmlOther head lines => exact text_gathers _
  | attributeList head content => exact text_gathers _
  | linkTarget head id url title => exact text_gathers _
  | plugin head lines handler => exact handler_gathers head lines handler
  | foreign typeName => exact fun s t part hpart => nomatch hpart
  | quote head blocks => exact nomatch hleaf
  | list head kind blocks => exact nomatch hleaf
  | item head kind blocks spaced => exact nomatch hleaf
  | footnotes head notes => exact nomatch hleaf

/-- **A block that is rendered** has the messages that the walk gathers from it. -/
theorem renderBlock_messages (horder : ctx.dispatch.InOrder) (block : Block) :
    Gathers (renderBlock ctx block) block.gather := by
  induction block using Block.ind with
  | leaf block h => exact leaf_gathers h
  | holds block head around blocks h ih =>
      have hwalk : block.gather = gatherEach blocks := funext h.gather_eq
      rw [renderBlock_of_holds h, hwalk]
      exact container_gathers horder head around ih
  | footnotes head notes ih =>
      have hnotes : ∀ note ∈ notes,
          Gathers (ctx.noteItem note (note.withReturnLink.map (renderBlock ctx)))
            (gatherEach note.blocks) := by
        intro note hnote
        rw [← funext (gatherEach_withReturnLink note)]
        refine container_gathers horder note.itemHead (itemHtml false) fun child hc => ?_
        rcases mem_withReturnLink hc with hc | rfl
        · exact ih note hnote child hc
        · exact leaf_gathers rfl
      have hwalk : (Block.footnotes head notes).gather = gatherNotes notes :=
        funext fun s => by rw [Block.gather]
      rw [renderBlock_footnotes, hwalk]
      exact footnotes_gathers horder _ hnotes

end

/-! ### Bare blocks -/

/-- The head without its attributes. -/
def Head.bare (head : Head) : Head :=
  { line := head.line }

mutual

/-- **The bare block**: without attributes, and with all its items spaced. -/
def Block.bare : Block → Block
  | .para head lines => .para head.bare lines
  | .heading head level content => .heading head.bare level content
  | .quote head blocks => .quote head.bare (bareEach blocks)
  | .code head lines language => .code head.bare lines language
  | .ruler head mark => .ruler head.bare mark
  | .list head kind blocks => .list head.bare kind (bareEach blocks)
  | .item head kind blocks _ => .item head.bare kind (bareEach blocks) true
  | .table head grid => .table head.bare grid
  | .html head lines => .html head.bare lines
  | .htmlOther head lines => .htmlOther head.bare lines
  | .footnotes head notes => .footnotes head.bare (bareNotes notes)
  | .attributeList head content => .attributeList head.bare content
  | .linkTarget head id url title => .linkTarget head.bare id url title
  | .plugin head lines handler => .plugin head.bare lines handler
  | .foreign typeName => .foreign typeName

/-- Bare siblings. -/
def bareEach : List Block → List Block
  | [] => []
  | block :: rest => block.bare :: bareEach rest

/-- Notes with bare blocks. -/
def bareNotes : List Note → List Note
  | [] => []
  | .mk id number blocks :: rest => .mk id number (bareEach blocks) :: bareNotes rest

end

lemma gatherEach_bareEach {blocks : List Block}
    (h : ∀ block ∈ blocks, ∀ s, block.bare.gather s = block.gather s) (s : Journal) :
    gatherEach (bareEach blocks) s = gatherEach blocks s := by
  induction blocks generalizing s with
  | nil => rfl
  | cons block rest ih =>
      rw [bareEach, gatherEach, gatherEach, h block List.mem_cons_self,
        ih fun b hb => h b (List.mem_cons_of_mem _ hb)]

/-- The walk does not see attributes, nor whether items are spaced. -/
lemma Block.gather_bare (block : Block) (s : Journal) : block.bare.gather s = block.gather s := by
  induction block using Block.ind generalizing s with
  | leaf block h => cases block <;> first | rfl | exact nomatch h
  | holds block head around blocks h ih =>
      have hblocks := gatherEach_bareEach ih s
      cases h with
      | quote => rw [Block.bare, Block.gather, hblocks, Block.gather]
      | list => rw [Block.bare, Block.gather, hblocks, Block.gather]
      | item => rw [Block.bare, Block.gather, hblocks, Block.gather]
  | footnotes head notes ih =>
      have hnotes : gatherNotes (bareNotes notes) s = gatherNotes notes s := by
        induction notes generalizing s with
        | nil => rfl
        | cons note rest ihnotes =>
            obtain ⟨id, number, blocks⟩ := note
            have hblocks := gatherEach_bareEach (ih (.mk id number blocks) List.mem_cons_self) s
            rw [Note.blocks] at hblocks
            rw [bareNotes, gatherNotes, gatherNotes, hblocks,
              ihnotes fun n hn => ih n (List.mem_cons_of_mem _ hn)]
      rw [Block.bare, Block.gather, hnotes, Block.gather]

/-! ### Documents -/

lemma gatherEach_bare (blocks : List Block) (s : Journal) :
    gatherEach (bareEach blocks) s = gatherEach blocks s :=
  gatherEach_bareEach (fun block _ => block.gather_bare) s

lemma gatherEach_of_renderBlocks {ctx : Context} (horder : ctx.dispatch.InOrder)
    {blocks : List Block} {s t : Journal} {rendered : Rendered}
    (h : renderBlocks ctx blocks s = (.ok rendered, t)) :
    gatherEach blocks s = (rendered.messages, t) := by
  rw [renderBlocks, renderEach_eq_map] at h
  obtain ⟨parts, heval, hjoin⟩ := ctx.renderSiblings_ok horder h
  rw [evaluates_gatherEach (fun block _ => renderBlock_messages horder block) heval,
    Part.messages_of_joinFrom hjoin]

/-- **The messages of a document** that is rendered in document order are those of the walk, and the
journal is that of the walk, too. Every other document with the same bare blocks has the same
messages, under every converter, reader and prefix; and if all handlers are pure, so has the document
itself under every schedule that evaluates each sibling once. -/
theorem renderBlocks_messages {ctx : Context} (horder : ctx.dispatch.InOrder) (blocks : List Block)
    (s t : Journal) (rendered : Rendered) (h : renderBlocks ctx blocks s = (.ok rendered, t)) :
    gatherEach blocks s = (rendered.messages, t)
    ∧ (∀ (other : Context) (twins : List Block) (u : Journal) (result : Rendered),
        other.dispatch.InOrder → bareEach twins = bareEach blocks →
        renderBlocks other twins s = (.ok result, u) → result.messages = rendered.messages)
    ∧ ∀ (schedule : Schedule) (result : Rendered), schedule.Exhaustive →
        (∀ node ∈ nodesOf blocks, node.HasPureHandler) →
        (renderBlocksAt ctx schedule blocks s).1 = .ok result →
        result.messages = rendered.messages := by
  have hwalk := gatherEach_of_renderBlocks horder h
  refine ⟨hwalk, fun other twins u result hother htwins hresult => ?_,
    fun schedule result hschedule hpure hresult => ?_⟩
  · have htwin := gatherEach_of_renderBlocks hother hresult
    rw [← gatherEach_bare, htwins, gatherEach_bare, hwalk] at htwin
    exact (congrArg Prod.fst htwin).symm
  · have hconst : Schedule.Exhaustive fun _ => ctx.dispatch := fun _ => horder.exhaustive
    obtain ⟨x, y, hx, hy, hok, -⟩ :=
      renderBlocksAt_sameOutcome ctx hpure hschedule.hides hconst.hides
    have hsame : y = .ok rendered := by
      rw [renderBlocksAt_const] at hy
      exact (congrArg Prod.fst (hy s)).symm.trans (congrArg Prod.fst h)
    rw [hx] at hresult
    have hboth : y = .ok result := (hok result).mp hresult
    rw [hsame] at hboth
    rw [Except.ok.inj hboth]

/-- The messages of a table in a note and of a handler in a quotation, in document order. -/
theorem renderBlocks_messages_nested :
    ∃ rendered t,
      renderBlocks (.ofOptions {})
          [.footnotes {} [.mk none 1 [.table { line := 7 } ⟨none, [["a", "b"]], [none]⟩]],
            .quote {} [.plugin {} ["x"] .echo]] [] = (.ok rendered, t)
        ∧ rendered.messages
          = [⟨.warning, 7, "table body row 1 has 2 cells, expected 1"⟩, ⟨.info, 1, "echo"⟩] := by
  have hecho : Handler.echo.IsPure := Handler.isPure_ofLines _ _
  have hfault := faultOf_renderBlocks {}
    [.footnotes {} [.mk none 1 [.table { line := 7 } ⟨none, [["a", "b"]], [none]⟩]],
      .quote {} [.plugin {} ["x"] .echo]]
    (by simp [nodesOf, nodesOfNotes, Block.nodes, Block.HasPureHandler, hecho])
    (by
      intro node hn
      simp only [nodesOf, nodesOfNotes, Block.nodes, List.append_nil, List.cons_append,
        List.nil_append, List.mem_cons, List.not_mem_nil, or_false] at hn
      rcases hn with rfl | rfl | rfl | rfl <;> rfl) []
  obtain ⟨rendered, hrendered⟩ := faultOf_eq_none.mp (hfault.trans rfl)
  refine ⟨rendered, _, Prod.ext hrendered rfl, ?_⟩
  have hwalk := (renderBlocks_messages (inOrder_ofOptions {}) _ [] _ rendered
    (Prod.ext hrendered rfl)).1
  have hmessages : _ = rendered.messages := congrArg Prod.fst hwalk
  rw [← hmessages]
  rfl

end BlockTree
