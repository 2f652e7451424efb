import BlockTree.Handler.Samples
import BlockTree.Proofs.AttributeList
import BlockTree.Proofs.Leaf

/-!
Which fault ends a rendering.

* `Block.steps`: what is done for a block, in the order in which it can fail: children are rendered
  one after another and joined, and then the block itself is put around them; the numbers of a
  footnote list are written before all that.
* `renderBlock_decided`: with pure handlers, evaluated in document order, a block fails with the
  fault of its first faulty step.
* `renderBlocks_firstFault`: if all handlers give texts, the fault of a document is that of its first
  faulty node, and a document without faulty nodes is rendered.
-/

namespace BlockTree

/-! ### Steps -/

/-- What is done for a block by itself, or the joining of what siblings gave. -/
inductive Step where
  | own (block : Block)
  | join (siblings : List Block)

/-- The fault of a step. -/
def Step.fault? (reader : Attributes.Reader) : Step → Option Fault
  | .own block => block.fault? reader
  | .join siblings => joinFault? (siblings.map Block.foreignType?)

mutual

/-- **The steps of a block** in the order in which they can fail. -/
def Block.steps : Block → List Step
  | .quote head blocks => stepsOf blocks ++ [.join blocks, .own (.quote head blocks)]
  | .list head kind blocks => stepsOf blocks ++ [.join blocks, .own (.list head kind blocks)]
  | .item head kind blocks spaced =>
    stepsOf blocks ++ [.join blocks, .own (.item head kind blocks spaced)]
  | .footnotes head notes => .own (.footnotes head notes) :: stepsOfNotes notes
  | block => [.own block]

/-- The steps of siblings, one after another. -/
def stepsOf : List Block → List Step
  | [] => []
  | block :: rest => block.steps ++ stepsOf rest

/-- The steps of the blocks of notes. -/
def stepsOfNotes : List Note → List Step
  | [] => []
  | .mk _ _ blocks :: rest => stepsOf blocks ++ .join blocks :: stepsOfNotes rest

end

/-- The fault of rendering siblings and joining them: that of the first faulty step. -/
def firstFault? (reader : Attributes.Reader) (blocks : List Block) : Option Fault :=
  (stepsOf blocks ++ [Step.join blocks]).findSome? (Step.fault? reader)

/-! ### Lists -/

section

variable {α β γ : Type}

lemma findSome?_flatMap (l : List α) (f : α → List β) (g : β → Option γ) :
    (l.flatMap f).findSome? g = l.findSome? fun a => (f a).findSome? g := by
  induction l with
  | nil => rfl
  | cons a rest ih =>
      rw [List.flatMap_cons, List.findSome?_append, ih, List.findSome?_cons]
      cases (f a).findSome? g <;> rfl

lemma findSome?_congr {l : List α} {f g : α → Option β} (h : ∀ a ∈ l, f a = g a) :
    l.findSome? f = l.findSome? g := by
  induction l with
  | nil => rfl
  | cons a rest ih =>
      rw [List.findSome?_cons, List.findSome?_cons, h a List.mem_cons_self,
        ih fun b hb => h b (List.mem_cons_of_mem a hb)]

lemma exists_forall₂ {R : α → β → Prop} {l : List α} (h : ∀ a ∈ l, ∃ b, R a b) :
    ∃ m, List.Forall₂ R l m := by
  induction l with
  | nil => exact ⟨[], .nil⟩
  | cons a rest ih =>
      obtain ⟨b, hb⟩ := h a List.mem_cons_self
      obtain ⟨m, hm⟩ := ih fun c hc => h c (List.mem_cons_of_mem a hc)
      exact ⟨b :: m, .cons hb hm⟩

end

/-! ### Faults of steps -/

section

variable (reader : Attributes.Reader)

lemma Block.steps_of_isLeaf {block : Block} (h : block.isLeaf = true) :
    block.steps = [.own block] := by
  cases block <;> simp_all [Block.isLeaf, Block.steps]

lemma Block.Holds.steps_eq {block : Block} {head : Head} {around : Text → Text}
    {blocks : List Block} (h : block.Holds head around blocks) :
    block.steps = stepsOf blocks ++ [.join blocks, .own block] := by
  cases h <;> rw [Block.steps]

lemma stepsOf_eq_flatMap (blocks : List Block) : stepsOf blocks = blocks.flatMap Block.steps := by
  induction blocks with
  | nil => rfl
  | cons block rest ih => rw [stepsOf, ih, List.flatMap_cons]

lemma stepsOfNotes_eq_flatMap (notes : List Note) :
    stepsOfNotes notes = notes.flatMap fun note => stepsOf note.blocks ++ [.join note.blocks] := by
  induction notes with
  | nil => rfl
  | cons note rest ih =>
      obtain ⟨id, number, blocks⟩ := note
      rw [stepsOfNotes, ih, List.flatMap_cons, List.append_assoc]
      rfl

lemma firstFault?_eq (blocks : List Block) :
    firstFault? reader blocks
      = (blocks.findSome? fun block => block.steps.findSome? (Step.fault? reader)).or
          (joinFault? (blocks.map Block.foreignType?)) := by
  rw [firstFault?, List.findSome?_append, stepsOf_eq_flatMap, findSome?_flatMap,
    List.findSome?_singleton]
  rfl

/-- A container comes to the first fault of its children before its own. -/
lemma Block.Holds.findSome?_steps {block : Block} {head : Head} {around : Text → Text}
    {blocks : List Block} (h : block.Holds head around blocks) :
    block.steps.findSome? (Step.fault? reader)
      = (firstFault? reader blocks).or (block.fault? reader) := by
  have hsteps : block.steps = (stepsOf blocks ++ [.join blocks]) ++ [.own block] := by
    rw [h.steps_eq, List.append_assoc]
    rfl
  rw [hsteps, List.findSome?_append, List.findSome?_singleton]
  rfl

lemma findSome?_stepsOfNotes (notes : List Note) :
    (stepsOfNotes notes).findSome? (Step.fault? reader)
      = notes.findSome? fun note => firstFault? reader note.blocks := by
  rw [stepsOfNotes_eq_flatMap, findSome?_flatMap]
  rfl

/-- Markup that is a text can be joined wherever it stands. -/
lemma joinFault?_append_none (types : List (Option Text)) :
    joinFault? (types ++ [none]) = joinFault? types := by
  rw [joinFault?, joinFault?, List.zipIdx_append, List.findSome?_append]
  simp

/-- The return link is no source of faults. -/
lemma firstFault?_withReturnLink (note : Note) :
    firstFault? reader note.withReturnLink = firstFault? reader note.blocks := by
  have hsteps : ∀ front head lines, firstFault? reader (front ++ [.para head lines])
      = (((stepsOf front).findSome? (Step.fault? reader)).or (head.fault? reader)).or
          (joinFault? (front.map Block.foreignType?)) := by
    intro front head lines
    have hpara : stepsOf [Block.para head lines] = [.own (.para head lines)] := by
      rw [stepsOf, Block.steps_of_isLeaf rfl, stepsOf, List.append_nil]
    have hjoin : Step.fault? reader (.join (front ++ [Block.para head lines]))
        = joinFault? (front.map Block.foreignType?) := by
      rw [Step.fault?, List.map_append]
      exact joinFault?_append_none _
    rw [firstFault?, stepsOf_eq_flatMap, List.flatMap_append,
      ← stepsOf_eq_flatMap, ← stepsOf_eq_flatMap, hpara, List.findSome?_append, List.findSome?_append,
      List.findSome?_singleton, List.findSome?_singleton, hjoin, Step.fault?, Block.fault?]
  refine Note.withReturnLink_eq (fun front head lines lines' => ?_) (fun front lines => ?_) note
  · rw [hsteps, hsteps]
  · have hhead : Head.fault? reader {} = none := rfl
    rw [hsteps, hhead, Option.or_none, firstFault?, List.findSome?_append, List.findSome?_singleton]
    rfl

end

/-! ### Rendering step by step -/

/-- **The steps decide on a block**: it comes to the fault of its first faulty step, or to markup of
its own type. -/
def DecidedBySteps (ctx : Context) (block : Block) : Prop :=
  SettlesAs (block.steps.findSome? (Step.fault? ctx.readAttributes)) block.foreignType?
    (renderBlock ctx block)

section

variable {ctx : Context}

lemma decided_of_isLeaf {block : Block} (hleaf : block.isLeaf = true)
    (hpure : block.HasPureHandler) : DecidedBySteps ctx block := by
  rw [DecidedBySteps, Block.steps_of_isLeaf hleaf, List.findSome?_singleton]
  exact leaf_settles ctx hleaf hpure

/-- Siblings that settle one by one have outcomes. -/
lemma exists_outcomes_of_settlesAs {ι : Type} {items : List ι} {action : ι → RenderM Part}
    {fault? : ι → Option Fault} {type? : ι → Option Text}
    (h : ∀ item ∈ items, SettlesAs (fault? item) (type? item) (action item)) :
    ∃ outcomes, List.Forall₂ Settles (items.map action) outcomes
      ∧ List.Forall₂ (fun item => ComesTo (fault? item) (type? item)) items outcomes := by
  obtain ⟨outcomes, houtcomes⟩ := exists_forall₂ h
  exact ⟨outcomes, List.forall₂_map_left_iff.mpr (houtcomes.imp fun _ _ h => h.1),
    houtcomes.imp fun _ _ h => h.2⟩

/-- A container comes to the first fault of its children, or to that of its attributes. -/
lemma container_settlesAs (horder : ctx.dispatch.InOrder) (head : Head) (around : Text → Text)
    {blocks : List Block} (h : ∀ child ∈ blocks, DecidedBySteps ctx child) :
    SettlesAs ((firstFault? ctx.readAttributes blocks).or (head.fault? ctx.readAttributes)) none
      (Rendered.part <$> ctx.container head around (blocks.map (renderBlock ctx))) := by
  obtain ⟨outcomes, hsettles, hcomes⟩ := exists_outcomes_of_settlesAs h
  refine (ctx.container_settles head around hsettles).settlesAs ?_
  rw [faultOf_bind (ctx.faultOf_wrapped head around), faultOf_joined horder hcomes, firstFault?_eq]

/-- A footnote list comes to the fault of its numbers, or to the first fault of its notes. -/
lemma footnotes_settlesAs (horder : ctx.dispatch.InOrder) {notes : List Note}
    {item : Note → RenderM Part} {fault? : Note → Option Fault}
    (h : ∀ note ∈ notes, SettlesAs (fault? note) none (item note)) :
    SettlesAs ((numbersFault? notes).or (notes.findSome? fault?)) none
      (Rendered.part <$> ctx.footnotes (notes.map Note.number) (notes.map item)) := by
  obtain ⟨outcomes, hsettles, hcomes⟩ := exists_outcomes_of_settlesAs h
  refine (ctx.footnotes_settles _ hsettles).settlesAs ?_
  have hlist : faultOf (joined ctx.dispatch outcomes >>= ctx.wrapped {} (listHtml .numbered))
      = notes.findSome? fault? := by
    have htypes : ∀ type ∈ notes.map fun _ => (none : Option Text), type = none := by
      simp
    rw [faultOf_bind (ctx.faultOf_wrapped {} (listHtml .numbered)), faultOf_joined horder hcomes,
      joinFault?_eq_none htypes, Option.or_none]
    exact Option.or_none
  rw [Context.listed, numbersFault?]
  split
  · rw [faultOf_map, hlist, Option.none_or]
  · rfl

/-- A note is rendered as an item without a fault of its own, if references to it can be read. -/
lemma noteItem_settlesAs (horder : ctx.dispatch.InOrder) {note : Note}
    (hread : note.itemHead.fault? ctx.readAttributes = none)
    (h : ∀ child ∈ note.blocks, DecidedBySteps ctx child) :
    SettlesAs (firstFault? ctx.readAttributes note.blocks) none
      (ctx.noteItem note (note.withReturnLink.map (renderBlock ctx))) := by
  have hlinked : ∀ child ∈ note.withReturnLink, DecidedBySteps ctx child := by
    intro child hc
    rcases mem_withReturnLink hc with hc | rfl
    · exact h child hc
    · exact decided_of_isLeaf rfl trivial
  have hitem := container_settlesAs horder note.itemHead (itemHtml false) hlinked
  rwa [hread, Option.or_none, firstFault?_withReturnLink] at hitem

/-- With pure handlers, **the steps decide** on every block. -/
theorem renderBlock_decided (horder : ctx.dispatch.InOrder)
    (hread : ∀ note : Note, note.itemHead.fault? ctx.readAttributes = none) (block : Block)
    (hpure : ∀ node ∈ block.nodes, node.HasPureHandler) : DecidedBySteps ctx block := by
  -- The type of the markup belongs to the invariant: it decides whether the siblings can be joined.
  induction block using Block.ind with
  | leaf block h => exact decided_of_isLeaf h (hpure block (mem_nodes_self block))
  | holds block head around blocks h ih =>
      have hchildren := container_settlesAs horder head around fun child hc =>
        ih child hc (h.forall_nodes hpure child hc)
      rwa [DecidedBySteps, h.findSome?_steps, h.fault?_eq, h.foreignType?_eq,
        renderBlock_of_holds h]
  | footnotes head notes ih =>
      have hnodes := forall_nodes_of_note hpure
      have hitems := footnotes_settlesAs horder fun note hn =>
        noteItem_settlesAs horder (hread note) fun child hc =>
          ih note hn child hc (hnodes note hn child hc)
      have hsteps : (Block.footnotes head notes).steps.findSome? (Step.fault? ctx.readAttributes)
          = (numbersFault? notes).or
              (notes.findSome? fun note => firstFault? ctx.readAttributes note.blocks) := by
        rw [Block.steps, List.findSome?_cons, findSome?_stepsOfNotes, Step.fault?, Block.fault?]
        cases numbersFault? notes <;> rfl
      rw [DecidedBySteps, renderBlock_footnotes, hsteps]
      exact hitems

/-- Siblings come to the fault of their first faulty step. -/
lemma renderBlocks_settles (horder : ctx.dispatch.InOrder)
    (hread : ∀ note : Note, note.itemHead.fault? ctx.readAttributes = none) {blocks : List Block}
    (hpure : ∀ node ∈ nodesOf blocks, node.HasPureHandler) :
    ∃ outcome, Settles (renderBlocks ctx blocks) outcome
      ∧ faultOf outcome = firstFault? ctx.readAttributes blocks := by
  have hblocks : ∀ block ∈ blocks, DecidedBySteps ctx block := fun block hb =>
    renderBlock_decided horder hread block fun node hn => hpure node (mem_nodesOf_of_mem hb hn)
  obtain ⟨outcomes, hsettles, hcomes⟩ := exists_outcomes_of_settlesAs hblocks
  refine ⟨joined ctx.dispatch outcomes, ?_, ?_⟩
  · rw [renderBlocks, renderEach_eq_map]
    exact ctx.renderSiblings_settles hsettles
  · rw [faultOf_joined horder hcomes, firstFault?_eq]

end

/-! ### Faulty nodes -/

lemma inOrder_ofOptions (options : Options) : (Context.ofOptions options).dispatch.InOrder := by
  rw [Context.ofOptions]
  cases options.strategy with
  | sequential => exact Dispatch.inOrder_sequential
  | parallel => exact Dispatch.inOrder_parallel

/-- The attributes of the item of a note can be read. -/
lemma itemHead_fault? (note : Note) : note.itemHead.fault? Attributes.readList = none := by
  rw [Note.itemHead, Head.fault?]
  exact if_pos (by rw [complaints_noteId]; rfl)

section

variable {reader : Attributes.Reader}

/-- If all handlers give texts, only blocks by themselves are faulty, and the first faulty step is
that of the first faulty node. -/
lemma Block.findSome?_steps (block : Block)
    (htext : ∀ node ∈ block.nodes, node.foreignType? = none) :
    block.steps.findSome? (Step.fault? reader) = block.nodes.findSome? (Block.fault? reader) := by
  have siblings : ∀ blocks : List Block,
      (∀ child ∈ blocks, (child.steps.findSome? (Step.fault? reader)
        = child.nodes.findSome? (Block.fault? reader)) ∧ child.foreignType? = none) →
      firstFault? reader blocks = (nodesOf blocks).findSome? (Block.fault? reader) := by
    intro blocks h
    have htypes : ∀ type ∈ blocks.map Block.foreignType?, type = none := by
      intro type htype
      obtain ⟨child, hc, rfl⟩ := List.mem_map.mp htype
      exact (h child hc).2
    rw [firstFault?_eq, joinFault?_eq_none htypes, Option.or_none, nodesOf_eq_flatMap,
      findSome?_flatMap]
    exact findSome?_congr fun child hc => (h child hc).1
  induction block using Block.ind with
  | leaf block h =>
      rw [Block.steps_of_isLeaf h, Block.nodes_of_isLeaf h, List.findSome?_singleton,
        List.findSome?_singleton]
      rfl
  | holds block head around blocks h ih =>
      have hchildren := h.forall_nodes htext
      have hblocks := siblings blocks fun child hc =>
        ⟨ih child hc (hchildren child hc), hchildren child hc child (mem_nodes_self child)⟩
      rw [h.findSome?_steps, hblocks, h.nodes_eq, List.findSome?_append,
        List.findSome?_singleton]
  | footnotes head notes ih =>
      have hchildren := forall_nodes_of_note htext
      have hnotes : ∀ note ∈ notes, firstFault? reader note.blocks
          = (nodesOf note.blocks).findSome? (Block.fault? reader) := fun note hn =>
        siblings note.blocks fun child hc => ⟨ih note hn child hc (hchildren note hn child hc),
          hchildren note hn child hc child (mem_nodes_self child)⟩
      rw [Block.steps, Block.nodes_footnotes, List.findSome?_cons, List.findSome?_cons,
        findSome?_stepsOfNotes, findSome?_flatMap, findSome?_congr hnotes]
      rfl

end

/-- The rendering of siblings with the standard converter and the standard reader of attributes comes
to the fault of the first faulty node. -/
lemma faultOf_renderBlocks (options : Options) (blocks : List Block)
    (hpure : ∀ node ∈ nodesOf blocks, node.HasPureHandler)
    (htext : ∀ node ∈ nodesOf blocks, node.foreignType? = none) (journal : Journal) :
    faultOf (renderBlocks (.ofOptions options) blocks journal).1
      = (nodesOf blocks).findSome? (Block.fault? Attributes.readList) := by
  obtain ⟨outcome, hsettles, hfault⟩ :=
    renderBlocks_settles (inOrder_ofOptions options) itemHead_fault? hpure
  have htypes : ∀ type ∈ blocks.map Block.foreignType?, type = none := by
    intro type htype
    obtain ⟨block, hb, rfl⟩ := List.mem_map.mp htype
    exact htext block (mem_nodesOf_of_mem hb (mem_nodes_self block))
  rw [hsettles journal, hfault, firstFault?_eq, joinFault?_eq_none htypes, Option.or_none,
    nodesOf_eq_flatMap, findSome?_flatMap]
  exact findSome?_congr fun block hb =>
    block.findSome?_steps fun node hn => htext node (mem_nodesOf_of_mem hb hn)

/-! ### Numbers of notes -/

lemma isWritable_iff (n : Int) : Text.isWritable n = true ↔ n.natAbs < 10 ^ Text.digitLimit := by
  rw [Text.isWritable, decide_eq_true_eq, Text.decimal]
  exact Nat.length_toDigits_le_iff (by decide) (by decide)

/-- The first number that has too many digits. -/
lemma isWritable_limit : Text.isWritable (10 ^ Text.digitLimit) = false := by
  have hten : (10 : Int).natAbs = 10 := rfl
  rw [← Bool.not_eq_true, isWritable_iff, Int.natAbs_pow, hten, not_lt]

namespace Block

/-- The numbers of the notes of a footnote list can be written. -/
def HasWritableNumbers : Block → Prop
  | .footnotes _ notes => ∀ note ∈ notes, Text.isWritable note.number = true
  | _ => True

/-- The fault of a block that follows from its attributes, its handler or its kind alone. -/
def expectedFault? (reader : Attributes.Reader) : Block → Option Fault
  | .footnotes _ _ => none
  | block => block.fault? reader

lemma fault?_of_hasWritableNumbers {block : Block} (h : block.HasWritableNumbers)
    (reader : Attributes.Reader) : block.fault? reader = block.expectedFault? reader := by
  cases block with
  | footnotes head notes =>
      have hall : (notes.map Note.number).all Text.isWritable = true := by
        rw [List.all_map, List.all_eq_true]
        exact h
      rw [fault?, numbersFault?, if_pos hall, expectedFault?]
  | _ => rfl

end Block

/-- **The first faulty node** decides: a document whose handlers are pure and give texts is rendered
if no node is faulty, and else ends with the fault of the first faulty node. If the numbers of all
notes can be written, a node is faulty by its attributes or by its handler only. -/
theorem renderBlocks_firstFault (options : Options) (blocks : List Block)
    (hpure : ∀ node ∈ nodesOf blocks, node.HasPureHandler)
    (htext : ∀ node ∈ nodesOf blocks, node.foreignType? = none) (journal : Journal) :
    ((∃ rendered, (renderBlocks (.ofOptions options) blocks journal).1 = .ok rendered)
        ↔ ∀ node ∈ nodesOf blocks, node.fault? Attributes.readList = none)
    ∧ (∀ fault, (renderBlocks (.ofOptions options) blocks journal).1 = .error fault
        ↔ (nodesOf blocks).findSome? (Block.fault? Attributes.readList) = some fault)
    ∧ ((∀ node ∈ nodesOf blocks, node.HasWritableNumbers) →
        ∀ fault, (renderBlocks (.ofOptions options) blocks journal).1 = .error fault
          ↔ (nodesOf blocks).findSome? (Block.expectedFault? Attributes.readList)
            = some fault) := by
  have hfault := faultOf_renderBlocks options blocks hpure htext journal
  have herror : ∀ fault, (renderBlocks (.ofOptions options) blocks journal).1 = .error fault
      ↔ (nodesOf blocks).findSome? (Block.fault? Attributes.readList) = some fault := by
    intro fault
    rw [← hfault, faultOf_eq_some]
  refine ⟨?_, herror, fun hwritable fault => ?_⟩
  · rw [← faultOf_eq_none, hfault, List.findSome?_eq_none_iff]
  · rw [herror, findSome?_congr fun node hn =>
      Block.fault?_of_hasWritableNumbers (hwritable node hn) Attributes.readList]

/-- A quotation ends with the failure of the handler inside before its own attributes are read. -/
theorem renderBlocks_firstFault_inside :
    (renderBlocks (.ofOptions { strategy := .parallel })
        [.quote { attributes := .written "!" } [.plugin {} ["x"] .boom, .ruler {} .thin]] []).1
      = .error (.render (.handlerFailed "<Boom>" (.crashed "boom: x"))) := by
  have hboom : Handler.boom.IsPure := Handler.isPure_ofLines _ _
  have hnodes := renderBlocks_firstFault { strategy := .parallel }
    [.quote { attributes := .written "!" } [.plugin {} ["x"] .boom, .ruler {} .thin]]
    (by simp [nodesOf, Block.nodes, Block.HasPureHandler, hboom])
    (by
      intro node hn
      simp only [nodesOf, Block.nodes, List.append_nil, List.cons_append, List.nil_append,
        List.mem_cons, List.not_mem_nil, or_false] at hn
      rcases hn with rfl | rfl | rfl <;> rfl) []
  exact (hnodes.2.1 _).mpr rfl

/-- **A number of more digits than the limit** ends the rendering of a document without any faulty
attributes and handlers, with a fault that is no failure of the renderer. -/
theorem unwritable_number :
    (renderBlocks (.ofOptions {}) [.footnotes {} [.mk none (10 ^ Text.digitLimit) []]] []).1
        = .error (.other (.badValue Text.tooLongToWrite))
      ∧ ∀ node ∈ nodesOf [.footnotes {} [.mk none (10 ^ Text.digitLimit) []]],
          node.expectedFault? Attributes.readList = none := by
  have hnumber : Text.isWritable (10 ^ Text.digitLimit) = false := by
    have hten : (10 : Int).natAbs = 10 := rfl
    rw [← Bool.not_eq_true, isWritable_iff, Int.natAbs_pow, hten, not_lt]
  have hnodes : nodesOf [.footnotes {} [.mk none (10 ^ Text.digitLimit) []]]
      = [.footnotes {} [.mk none (10 ^ Text.digitLimit) []]] := rfl
  constructor
  · rw [← faultOf_eq_some, faultOf_renderBlocks {} _ (by simp [hnodes, Block.HasPureHandler])
      (by simp [hnodes, Block.foreignType?]), hnodes, List.findSome?_singleton, Block.fault?,
      numbersFault?]
    simp [Note.number, hnumber]
  · simp [hnodes, Block.expectedFault?]

end BlockTree
