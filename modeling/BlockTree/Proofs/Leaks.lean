import BlockTree.Proofs.Recorded

/-!
Failures that are none of the renderer's.

* `Step.leak?`: a step that fails with a cause of another kind: messages that cannot be listed, a
  failure that cannot be put into words, markup that is no text, numbers that cannot be written.
* `Contained`: a rendering that gives texts and fails only as the renderer does.
* `renderBlocks_leak`: a rendering ends with another cause exactly if its first faulty step leaks, and
  never if all handlers of the document keep to texts and to lists of messages.
-/

namespace BlockTree

/-! ### Leaks -/

/-- The cause that a reply lets through: only the call itself is guarded. -/
def Reply.leak? : Reply → Option Cause
  | .unlistable _ (.other cause) => some cause
  | .unspoken (.other cause) => some cause
  | _ => none

/-- The type of the markup in a reply, if it is no text. -/
def Reply.foreignType? : Reply → Option Text
  | .rendered part => part.foreignType?
  | _ => none

/-- The cause that a block by itself lets through. -/
def Block.leak? : Block → Option Cause
  | .plugin _ lines handler => (handler.replyTo lines).leak?
  | .footnotes _ notes =>
    if (notes.map Note.number).all Text.isWritable then none
    else some (.badValue Text.tooLongToWrite)
  | _ => none

/-- The cause that the joining of siblings lets through. -/
def joinLeak? (types : List (Option Text)) : Option Cause :=
  types.zipIdx.findSome? fun entry => entry.1.map (Part.unjoinable entry.2)

/-- **A step leaks** if it fails with a cause that is no failure of the renderer. -/
def Step.leak? : Step → Option Cause
  | .own block => block.leak?
  | .join siblings => joinLeak? (siblings.map Block.foreignType?)

lemma joinFault?_eq_map (types : List (Option Text)) :
    joinFault? types = (joinLeak? types).map .other := by
  rw [joinFault?, joinLeak?, List.map_findSome?]
  simp only [Function.comp_def, Option.map_map]

lemma Reply.settle_eq_other (reply : Reply) (label : Text) (cause : Cause) :
    reply.settle label = .error (.other cause) ↔ reply.leak? = some cause := by
  cases reply with
  | rendered part => simp [settle, leak?]
  | unlistable fragment fault => cases fault <;> simp [settle, leak?]
  | raised fault => cases fault <;> simp [settle, leak?]
  | unspoken fault => cases fault <;> simp [settle, leak?]

lemma Head.fault?_ne_other (reader : Attributes.Reader) (head : Head) (cause : Cause) :
    head.fault? reader ≠ some (.other cause) := by
  rw [fault?]
  split
  · split <;> simp
  · simp

lemma Block.fault?_eq_other (reader : Attributes.Reader) (block : Block) (cause : Cause) :
    block.fault? reader = some (.other cause) ↔ block.leak? = some cause := by
  have attributes : ∀ head : Head, head.fault? reader = some (.other cause)
      ↔ (none : Option Cause) = some cause := fun head =>
    ⟨fun h => absurd h (head.fault?_ne_other reader cause), fun h => nomatch h⟩
  cases block with
  | plugin head lines handler =>
      rw [fault?, Handler.fault?, faultOf_eq_some, Reply.settle_eq_other, leak?]
  | footnotes head notes =>
      rw [fault?, numbersFault?, leak?]
      split <;> simp
  | foreign typeName => simp [fault?, leak?]
  | html head lines => simp [fault?, leak?]
  | htmlOther head lines => simp [fault?, leak?]
  | attributeList head content => simp [fault?, leak?]
  | linkTarget head id url title => simp [fault?, leak?]
  | para head lines => exact attributes head
  | heading head level content => exact attributes head
  | quote head blocks => exact attributes head
  | code head lines language => exact attributes head
  | ruler head mark => exact attributes head
  | list head kind blocks => exact attributes head
  | item head kind blocks spaced => exact attributes head
  | table head grid => exact attributes head

lemma Step.fault?_eq_other (reader : Attributes.Reader) (step : Step) (cause : Cause) :
    step.fault? reader = some (.other cause) ↔ step.leak? = some cause := by
  cases step with
  | own block => exact block.fault?_eq_other reader cause
  | join siblings =>
      rw [fault?, joinFault?_eq_map, leak?]
      simp

/-! ### Contained renderings -/

/-- **A rendering is contained** if it gives markup that is a text, and fails only with failures of
the renderer. -/
def Contained (action : RenderM Part) : Prop :=
  ∀ s, (∀ cause, (action s).1 ≠ .error (.other cause))
    ∧ ∀ part, (action s).1 = .ok part → part.foreignType? = none

/-- A handler that, whatever notes there are, gives a text with a list of messages for these lines,
or fails with a failure that can be put into words. -/
def Handler.IsProper (handler : Handler) (lines : List Text) : Prop :=
  ∀ journal : Journal, (handler.render lines journal).1.leak? = none
    ∧ (handler.render lines journal).1.foreignType? = none

/-- A block whose handler is proper, and whose numbers can be written. -/
def Block.IsProper : Block → Prop
  | .plugin _ lines handler => handler.IsProper lines
  | block => block.HasWritableNumbers

lemma contained_of_settlesAs {action : RenderM Part} {fault? : Option Fault}
    (h : SettlesAs fault? none action) (hfault : ∀ cause, fault? ≠ some (.other cause)) :
    Contained action := by
  obtain ⟨outcome, hsettles, hcomes, htype⟩ := h
  intro s
  rw [hsettles s]
  refine ⟨fun cause hcause => hfault cause ?_, htype⟩
  rw [← hcomes, faultOf_eq_some]
  exact hcause

lemma map_ne_other {α β : Type} {action : RenderM α}
    (h : ∀ s cause, (action s).1 ≠ .error (.other cause)) (f : α → β) (s : Journal)
    (cause : Cause) : ((f <$> action) s).1 ≠ .error (.other cause) := by
  rw [Action.map_apply]
  intro hcause
  have hfault : faultOf ((action s).1.map f) = some (.other cause) := faultOf_eq_some.mpr hcause
  rw [faultOf_map, faultOf_eq_some] at hfault
  exact h s cause hfault

/-- What is mapped to markup is a text, so that only the failures matter. -/
lemma contained_map_part {action : RenderM Rendered}
    (h : ∀ s cause, (action s).1 ≠ .error (.other cause)) :
    Contained (Rendered.part <$> action) := by
  refine fun s => ⟨map_ne_other h Rendered.part s, fun part hpart => ?_⟩
  rw [Action.map_apply] at hpart
  obtain ⟨rendered, -, rfl⟩ := map_eq_ok_iff.mp hpart
  rfl

lemma Handler.IsProper.contained {handler : Handler} {lines : List Text}
    (h : handler.IsProper lines) : Contained (handler.call lines) := by
  intro s
  obtain ⟨hleak, htype⟩ := h s
  show (∀ cause, (handler.render lines s).1.settle handler.label ≠ .error (.other cause))
    ∧ ∀ part, (handler.render lines s).1.settle handler.label = .ok part →
        part.foreignType? = none
  constructor
  · intro cause hcause
    rw [Reply.settle_eq_other, hleak] at hcause
    exact nomatch hcause
  · intro part hpart
    rwa [Reply.settle_eq_ok.mp hpart] at htype

section

variable {ctx : Context}

lemma contained_of_isLeaf {block : Block} (hleaf : block.isLeaf = true) (h : block.IsProper) :
    Contained (renderBlock ctx block) := by
  cases block with
  | plugin head lines handler => exact Handler.IsProper.contained h
  | quote head blocks => exact nomatch hleaf
  | list head kind blocks => exact nomatch hleaf
  | item head kind blocks spaced => exact nomatch hleaf
  | footnotes head notes => exact nomatch hleaf
  | _ =>
      refine contained_of_settlesAs (leaf_settles ctx hleaf trivial) fun cause hcause => ?_
      exact nomatch (Block.fault?_eq_other _ _ cause).mp hcause

/-- Contained siblings join to contained markup, in whatever order they are evaluated. -/
lemma renderSiblings_ne_other {siblings : List (RenderM Part)}
    (h : ∀ sibling ∈ siblings, Contained sibling) (s : Journal) (cause : Cause) :
    (ctx.renderSiblings siblings s).1 ≠ .error (.other cause) := by
  intro hcause
  rcases hrun : ctx.renderSiblings siblings s with ⟨x, t⟩
  rw [hrun] at hcause
  obtain rfl : x = .error (.other cause) := hcause
  rcases ctx.renderSiblings_error hrun with
    ⟨sibling, hs, u, v, huv⟩ | ⟨sibling, hs, u, v, part, huv, htype⟩
  · exact (h sibling hs u).1 cause (by rw [huv])
  · exact htype ((h sibling hs u).2 part (by rw [huv]))

lemma container_ne_other {children : List (RenderM Part)} (h : ∀ child ∈ children, Contained child)
    (head : Head) (around : Text → Text) (s : Journal) (cause : Cause) :
    (ctx.container head around children s).1 ≠ .error (.other cause) := by
  rw [Context.container, Action.bind_apply]
  rcases hrun : ctx.renderSiblings children s with ⟨x | content, t⟩
  · intro hcause
    have hfirst : (ctx.renderSiblings children s).1 ≠ .error (.other cause) :=
      renderSiblings_ne_other h s cause
    rw [hrun] at hfirst
    exact hfirst hcause
  · intro hcause
    have hfault : faultOf (ctx.wrapped head around content) = some (.other cause) :=
      faultOf_eq_some.mpr hcause
    rw [ctx.faultOf_wrapped] at hfault
    exact head.fault?_ne_other _ cause hfault

lemma footnotes_ne_other {items : List (RenderM Part)} (h : ∀ item ∈ items, Contained item)
    {numbers : List Int} (hnumbers : ∀ n ∈ numbers, Text.isWritable n = true) (s : Journal)
    (cause : Cause) : (ctx.footnotes numbers items s).1 ≠ .error (.other cause) := by
  rw [Context.footnotes, if_pos (List.all_eq_true.mpr hnumbers)]
  exact map_ne_other (container_ne_other h {} (listHtml .numbered)) _ s cause

/-- **A proper document is contained**, whatever the dispatch, the converter and the reader. -/
theorem renderBlock_contained (block : Block) (hproper : ∀ node ∈ block.nodes, node.IsProper) :
    Contained (renderBlock ctx block) := by
  induction block using Block.ind with
  | leaf block h => exact contained_of_isLeaf h (hproper block (mem_nodes_self block))
  | holds block head around blocks h ih =>
      rw [renderBlock_of_holds h]
      refine contained_map_part (container_ne_other ?_ head around)
      intro child hchild
      obtain ⟨b, hb, rfl⟩ := List.mem_map.mp hchild
      exact ih b hb (h.forall_nodes hproper b hb)
  | footnotes head notes ih =>
      have hnodes := forall_nodes_of_note hproper
      have hnumbers : ∀ note ∈ notes, Text.isWritable note.number = true :=
        hproper _ (mem_nodes_self _)
      have hnumbers' : ∀ n ∈ notes.map Note.number, Text.isWritable n = true := by
        intro n hn
        obtain ⟨note, hnote, rfl⟩ := List.mem_map.mp hn
        exact hnumbers note hnote
      rw [renderBlock_footnotes]
      refine contained_map_part (footnotes_ne_other ?_ hnumbers')
      intro item hitem
      obtain ⟨note, hnote, rfl⟩ := List.mem_map.mp hitem
      refine contained_map_part (container_ne_other ?_ note.itemHead (itemHtml false))
      intro child hchild
      obtain ⟨b, hb, rfl⟩ := List.mem_map.mp hchild
      rcases mem_withReturnLink hb with hb | rfl
      · exact ih note hnote b hb (hnodes note hnote b hb)
      · exact contained_of_isLeaf rfl trivial

end

/-- **Leaks**: a rendering ends with a cause that is no failure of the renderer exactly if the first
faulty step leaks it, with the replies of the handlers as they were given in this rendering. A
document of proper blocks never does, under whatever dispatch, converter and reader. -/
theorem renderBlocks_leak (options : Options) (blocks : List Block) (journal : Journal)
    (cause : Cause) :
    ((renderBlocks (.ofOptions options) blocks journal).1 = .error (.other cause)
        ↔ ∃ before step after,
            stepsOf (recordedEach blocks journal).1 ++ [.join (recordedEach blocks journal).1]
                = before ++ step :: after
              ∧ step.leak? = some cause
              ∧ ∀ earlier ∈ before, earlier.fault? Attributes.readList = none)
    ∧ ((∀ node ∈ nodesOf blocks, node.IsProper) →
        ∀ ctx, (renderBlocks ctx blocks journal).1 ≠ .error (.other cause)) := by
  constructor
  · rw [← faultOf_eq_some, faultOf_renderBlocks_recorded (inOrder_ofOptions options) itemHead_fault?,
      firstFault?, List.findSome?_eq_some_iff]
    simp only [Step.fault?_eq_other]
    rfl
  · intro hproper ctx
    rw [renderBlocks, renderEach_eq_map]
    refine renderSiblings_ne_other (fun sibling hs => ?_) journal cause
    obtain ⟨block, hb, rfl⟩ := List.mem_map.mp hs
    exact renderBlock_contained block fun node hn => hproper node (mem_nodesOf_of_mem hb hn)

/-- A handler that takes notes and one that crashes do not let anything through. -/
theorem renderBlocks_leak_proper :
    ∀ ctx, (renderBlocks ctx [.plugin {} ["a"] .trace, .quote {} [.plugin {} ["b"] .boom]] []).1
      ≠ .error (.other (.crashed "boom: b")) := by
  refine (renderBlocks_leak {} _ [] _).2 ?_
  intro node hn
  simp only [nodesOf, Block.nodes, List.append_nil, List.cons_append, List.nil_append,
    List.mem_cons, List.not_mem_nil, or_false] at hn
  rcases hn with rfl | rfl | rfl
  · exact fun journal => ⟨rfl, rfl⟩
  · exact fun journal => ⟨rfl, rfl⟩
  · trivial

/-- **Messages that cannot be listed** end the rendering with the failure of listing them, although
the call of the handler is guarded. -/
theorem unlistable_messages :
    (renderBlocks (.ofOptions {})
        [.plugin {} [] (.unlistable "<NoneMessages>" "<x/>"
          (.wrongType "'NoneType' object is not iterable"))] []).1
      = .error (.other (.wrongType "'NoneType' object is not iterable")) := by
  rfl

end BlockTree
