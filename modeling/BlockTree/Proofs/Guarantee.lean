import BlockTree.Proofs.Siblings
import BlockTree.Proofs.Tree

/-!
What a rendering ensures, whatever notes handlers take and in whatever order siblings are evaluated.

* `Ensures`: results are good and faults are admitted, in every state; `Ensures.map` and
  `Ensures.bind` carry it through a program.
* `Context.renderSiblings_ensures`: siblings that give good texts are joined to a concatenation of
  good texts, with omissions and repetitions as the dispatch has them.
* `Context.container_ensures` and `Context.footnotes_ensures`: the same for the markup around them.
* `renderBlock_ensures`: by induction over the tree, the markup of a block is good if that of its
  leaves is and its containers keep it good (`Context.KeepsAround`, `Context.KeepsNotes`).
-/

namespace BlockTree

variable {α β : Type} {admitted : Fault → Prop}

/-! ### Outcomes and actions -/

/-- An outcome is a good result or an admitted fault. -/
def Upholds (good : α → Prop) (admitted : Fault → Prop) : Except Fault α → Prop
  | .ok a => good a
  | .error fault => admitted fault

/-- **A rendering ensures** good results and admitted faults: it comes to nothing else in any
state. -/
def Ensures (good : α → Prop) (admitted : Fault → Prop) (action : RenderM α) : Prop :=
  ∀ s, Upholds good admitted (action s).1

lemma Upholds.map {good : α → Prop} {good' : β → Prop} {f : α → β} {x : Except Fault α}
    (h : Upholds good admitted x) (hf : ∀ a, good a → good' (f a)) :
    Upholds good' admitted (x.map f) := by
  cases x with
  | error fault => exact h
  | ok a => exact hf a h

lemma ensures_liftM {good : α → Prop} {x : Except Fault α} (h : Upholds good admitted x) :
    Ensures good admitted (liftM x : RenderM α) := fun _ => h

lemma Ensures.map {good : α → Prop} {good' : β → Prop} {f : α → β} {action : RenderM α}
    (h : Ensures good admitted action) (hf : ∀ a, good a → good' (f a)) :
    Ensures good' admitted (f <$> action) := fun s => by
  rw [Action.map_apply]
  exact (h s).map hf

lemma Ensures.bind {good : α → Prop} {good' : β → Prop} {action : RenderM α}
    {next : α → RenderM β} (h : Ensures good admitted action)
    (hnext : ∀ a, good a → Ensures good' admitted (next a)) :
    Ensures good' admitted (action >>= next) := by
  intro s
  have hs := h s
  rw [Action.bind_apply]
  rcases hrun : action s with ⟨fault | a, t⟩
  · rw [hrun] at hs
    exact hs
  · rw [hrun] at hs
    exact hnext a hs t

/-! ### Siblings -/

/-- The markup of a part is a good text. -/
def Part.Shows (good : Text → Prop) (part : Part) : Prop :=
  ∃ html, part.fragment = .text html ∧ good html

/-- What good texts are joined to. -/
def Concatenates (good : Text → Prop) (rendered : Rendered) : Prop :=
  ∃ texts : List Text, rendered.html = texts.flatten ∧ ∀ text ∈ texts, good text

lemma Ensures.part {good : Text → Prop} {action : RenderM Rendered}
    (h : Ensures (fun rendered => good rendered.html) admitted action) :
    Ensures (Part.Shows good) admitted (Rendered.part <$> action) :=
  h.map fun rendered hgood => ⟨rendered.html, rfl, hgood⟩

lemma Part.concatenates_of_joinFrom {good : Text → Prop} {index : Nat} {parts : List Part}
    (h : ∀ part ∈ parts, part.Shows good) {rendered : Rendered}
    (hjoin : joinFrom index parts = .ok rendered) : Concatenates good rendered := by
  induction parts generalizing index rendered with
  | nil =>
      obtain rfl : ⟨[], []⟩ = rendered := Except.ok.inj hjoin
      exact ⟨[], rfl, nofun⟩
  | cons part rest ih =>
      rw [List.forall_mem_cons] at h
      obtain ⟨fragment, messages⟩ := part
      obtain ⟨⟨html, rfl, hhtml⟩, hrest⟩ := h
      obtain ⟨others, ho, rfl⟩ := map_eq_ok_iff.mp hjoin
      obtain ⟨texts, htexts, hgood⟩ := ih hrest ho
      exact ⟨html :: texts, by rw [htexts, List.flatten_cons],
        List.forall_mem_cons.mpr ⟨hhtml, hgood⟩⟩

namespace Context

variable (ctx : Context)

/-- Siblings that succeed have joined parts that their actions gave. -/
lemma renderSiblings_parts {siblings : List (RenderM Part)} {s t : Journal} {rendered : Rendered}
    (h : ctx.renderSiblings siblings s = (.ok rendered, t)) :
    ∃ parts, Part.join parts = .ok rendered
      ∧ ∀ part ∈ parts, ∃ sibling ∈ siblings, ∃ u v, sibling u = (.ok part, v) := by
  obtain ⟨results, u, hrun, h⟩ := Action.bind_eq_ok.mp h
  rw [Action.liftM_apply, Action.end_inj] at h
  exact ⟨inDocumentOrder results, h.1, fun part => ctx.dispatch.exists_of_mem_results hrun⟩

/-- **Siblings that give good texts** are joined to a concatenation of good texts, and fail as one of
them does. -/
lemma renderSiblings_ensures {good : Text → Prop} {siblings : List (RenderM Part)}
    (h : ∀ sibling ∈ siblings, Ensures (Part.Shows good) admitted sibling) :
    Ensures (Concatenates good) admitted (ctx.renderSiblings siblings) := by
  have hshows : ∀ sibling ∈ siblings, ∀ u v part, sibling u = (.ok part, v) →
      part.Shows good := by
    intro sibling hs u v part huv
    have hu := h sibling hs u
    rwa [huv] at hu
  intro s
  rcases hrun : ctx.renderSiblings siblings s with ⟨fault | rendered, t⟩
  · -- A fault is that of a sibling or a part without markup, which no good part is.
    rcases ctx.renderSiblings_error hrun with
      ⟨sibling, hs, u, v, huv⟩ | ⟨sibling, hs, u, v, part, huv, htype⟩
    · have hu := h sibling hs u
      rwa [huv] at hu
    · obtain ⟨html, hhtml, -⟩ := hshows sibling hs u v part huv
      exact absurd (by rw [Part.foreignType?, hhtml]) htype
  · obtain ⟨parts, hjoin, hparts⟩ := ctx.renderSiblings_parts hrun
    refine Part.concatenates_of_joinFrom (fun part hpart => ?_) hjoin
    obtain ⟨sibling, hs, u, v, huv⟩ := hparts part hpart
    exact hshows sibling hs u v part huv

/-! ### Containers -/

/-- A container is good if its markup around good texts is. -/
lemma container_ensures {good good' : Text → Prop} {head : Head} {around : Text → Text}
    {children : List (RenderM Part)}
    (hchildren : ∀ child ∈ children, Ensures (Part.Shows good) admitted child)
    (haround : ∀ texts : List Text, (∀ text ∈ texts, good text) →
      Upholds good' admitted (ctx.decorate head [] (around texts.flatten))) :
    Ensures (fun rendered => good' rendered.html) admitted
      (ctx.container head around children) := by
  refine (ctx.renderSiblings_ensures hchildren).bind fun content hcontent => ?_
  obtain ⟨texts, htexts, hgood⟩ := hcontent
  refine ensures_liftM (Upholds.map ?_ fun _ h => h)
  rw [htexts]
  exact haround texts hgood

/-- A footnote list is good if its markup around a good list is, and fails if its numbers cannot be
written. -/
lemma footnotes_ensures {good good' : Text → Prop} {numbers : List Int}
    {items : List (RenderM Part)}
    (hnumbers : ¬ numbers.all Text.isWritable → admitted (.other (.badValue Text.tooLongToWrite)))
    (hlist : Ensures (fun rendered => good rendered.html) admitted (ctx.list {} .numbered items))
    (haround : ∀ list, good list → good' (footnotesHtml list)) :
    Ensures (fun rendered => good' rendered.html) admitted (ctx.footnotes numbers items) := by
  rw [footnotes]
  split
  · exact hlist.map fun list h => haround list.html h
  · exact fun _ => hnumbers (by assumption)

/-! ### The tree -/

/-- **Markup around good texts is good**, once it has the attributes of a head. -/
def KeepsAround (good : Text → Prop) (admitted : Fault → Prop) (head : Head)
    (around : Text → Text) : Prop :=
  ∀ content, good content → Upholds good admitted (ctx.decorate head [] (around content))

/-- **A footnote list keeps markup good**: its numbers, the paragraphs that get the return links, and
the markup around the notes, around all of them and around the list. -/
structure KeepsNotes (good : Text → Prop) (admitted : Fault → Prop) (notes : List Note) : Prop where
  numbers : (¬ ∀ note ∈ notes, Text.isWritable note.number = true) →
    admitted (.other (.badValue Text.tooLongToWrite))
  linked : ∀ note ∈ notes, Ensures (Part.Shows good) admitted
    (renderBlock ctx (.para note.linked.head note.linked.lines))
  item : ∀ note ∈ notes, ctx.KeepsAround good admitted note.itemHead (itemHtml false)
  list : ctx.KeepsAround good admitted {} (listHtml .numbered)
  around : ∀ list, good list → good (footnotesHtml list)

end Context

/-- **The tree**: if a property of the nodes makes the markup of leaves good, and makes containers and
footnote lists keep good what is inside, then the markup of a block with such nodes is good. -/
theorem renderBlock_ensures {ctx : Context} {good : Text → Prop} {ordinary : Block → Prop}
    (hflatten : ∀ texts : List Text, (∀ text ∈ texts, good text) → good texts.flatten)
    (hleaf : ∀ leaf : Block, leaf.isLeaf = true → ordinary leaf →
      Ensures (Part.Shows good) admitted (renderBlock ctx leaf))
    (hholds : ∀ (block : Block) head around blocks, block.Holds head around blocks →
      ordinary block → ctx.KeepsAround good admitted head around)
    (hnotes : ∀ head notes, ordinary (.footnotes head notes) →
      (∀ note ∈ notes, ∀ child ∈ note.blocks, ordinary child) → ctx.KeepsNotes good admitted notes)
    (block : Block) (hnodes : ∀ node ∈ block.nodes, ordinary node) :
    Ensures (Part.Shows good) admitted (renderBlock ctx block) := by
  have hcontainer : ∀ {head around} {children : List (RenderM Part)},
      ctx.KeepsAround good admitted head around →
      (∀ child ∈ children, Ensures (Part.Shows good) admitted child) →
      Ensures (fun rendered => good rendered.html) admitted (ctx.container head around children) :=
    fun haround hchildren =>
      ctx.container_ensures hchildren fun texts htexts => haround _ (hflatten texts htexts)
  induction block using Block.ind with
  | leaf block h => exact hleaf block h (hnodes block (mem_nodes_self block))
  | holds block head around blocks h ih =>
      have haround := hholds block head around blocks h (hnodes block (mem_nodes_self block))
      rw [renderBlock_of_holds h]
      refine (hcontainer haround fun child hchild => ?_).part
      obtain ⟨b, hb, rfl⟩ := List.mem_map.mp hchild
      exact ih b hb (h.forall_nodes hnodes b hb)
  | footnotes head notes ih =>
      have hinside := forall_nodes_of_note hnodes
      have hkeeps := hnotes head notes (hnodes _ (mem_nodes_self _)) fun note hn child hc =>
        hinside note hn child hc child (mem_nodes_self child)
      rw [renderBlock_footnotes]
      refine (ctx.footnotes_ensures (fun hlong => hkeeps.numbers fun hall => ?_)
        (hcontainer hkeeps.list fun item hi => ?_) hkeeps.around).part
      · rw [List.all_map, List.all_eq_true] at hlong
        exact hlong hall
      · obtain ⟨note, hn, rfl⟩ := List.mem_map.mp hi
        refine (hcontainer (hkeeps.item note hn) fun child hchild => ?_).part
        -- A child is a block of the note, or the paragraph that has got the return link.
        obtain ⟨b, hb, rfl⟩ := List.mem_map.mp hchild
        rcases mem_withReturnLink hb with hb | rfl
        · exact ih note hn b hb (hinside note hn b hb)
        · exact hkeeps.linked note hn

end BlockTree
