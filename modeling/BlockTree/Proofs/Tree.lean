import BlockTree.Proofs.Dispatch
import BlockTree.Render.Block

/-!
The tree of blocks: induction over it, its nodes, and how its containers are rendered.

* `Block.Holds`: quotations, lists and items hold blocks directly, below one head; `Block.isLeaf`:
  all other kinds but footnote lists hold none. `Block.ind` is the induction over these three.
* `Block.nodes`: the blocks of a tree, children before their container, a footnote list before the
  blocks of its notes.
* `renderBlock_of_holds` and `renderBlock_footnotes`: both kinds of containers render their children
  and put markup around them; a note renders its blocks with the return link in place.
-/

namespace BlockTree

namespace Block

/-! ### Induction -/

/-- **A block holds blocks** directly, below one head and with markup around them: quotations, lists
and items do. -/
inductive Holds : Block → Head → (Text → Text) → List Block → Prop where
  | quote (head : Head) (blocks : List Block) : Holds (.quote head blocks) head quoteHtml blocks
  | list (head : Head) (kind : ListKind) (blocks : List Block) :
      Holds (.list head kind blocks) head (listHtml kind) blocks
  | item (head : Head) (kind : ListKind) (blocks : List Block) (spaced : Bool) :
      Holds (.item head kind blocks spaced) head (itemHtml (isTight spaced blocks.length)) blocks

/-- A block that has no blocks inside, whatever its content. -/
def isLeaf : Block → Bool
  | .quote _ _ => false
  | .list _ _ _ => false
  | .item _ _ _ _ => false
  | .footnotes _ _ => false
  | _ => true

/-- The induction principle of the tree: a property holds of every block once it holds of the leaves
and is inherited from the blocks of a container and from those of the notes of a footnote list. -/
@[elab_as_elim]
theorem ind {P : Block → Prop} (leaf : ∀ block, block.isLeaf = true → P block)
    (holds : ∀ block head around blocks, Holds block head around blocks →
      (∀ child ∈ blocks, P child) → P block)
    (footnotes : ∀ head notes, (∀ note ∈ notes, ∀ child ∈ Note.blocks note, P child) →
      P (.footnotes head notes))
    (block : Block) : P block :=
  @Block.rec P (fun note => ∀ child ∈ note.blocks, P child) (fun blocks => ∀ child ∈ blocks, P child)
    (fun notes => ∀ note ∈ notes, ∀ child ∈ Note.blocks note, P child)
    (fun _ _ => leaf _ rfl) (fun _ _ _ => leaf _ rfl)
    (fun head blocks ih => holds _ head _ blocks (.quote head blocks) ih)
    (fun _ _ _ => leaf _ rfl) (fun _ _ => leaf _ rfl)
    (fun head kind blocks ih => holds _ head _ blocks (.list head kind blocks) ih)
    (fun head kind blocks spaced ih => holds _ head _ blocks (.item head kind blocks spaced) ih)
    (fun _ _ => leaf _ rfl) (fun _ _ => leaf _ rfl) (fun _ _ => leaf _ rfl)
    (fun head notes ih => footnotes head notes ih)
    (fun _ _ => leaf _ rfl) (fun _ _ _ _ => leaf _ rfl) (fun _ _ _ => leaf _ rfl)
    (fun _ => leaf _ rfl)
    (fun _ _ _ ih => ih)
    nofun (fun _ _ first others => List.forall_mem_cons.mpr ⟨first, others⟩)
    nofun (fun _ _ first others => List.forall_mem_cons.mpr ⟨first, others⟩)
    block

end Block

/-! ### Nodes -/

mutual

/-- **The nodes of a block**: children before their container, siblings in document order, and a
footnote list before the blocks of its notes. -/
def Block.nodes : Block → List Block
  | .quote head blocks => nodesOf blocks ++ [.quote head blocks]
  | .list head kind blocks => nodesOf blocks ++ [.list head kind blocks]
  | .item head kind blocks spaced => nodesOf blocks ++ [.item head kind blocks spaced]
  | .footnotes head notes => .footnotes head notes :: nodesOfNotes notes
  | block => [block]

/-- The nodes of siblings. -/
def nodesOf : List Block → List Block
  | [] => []
  | block :: rest => block.nodes ++ nodesOf rest

/-- The nodes of the blocks of notes. -/
def nodesOfNotes : List Note → List Block
  | [] => []
  | .mk _ _ blocks :: rest => nodesOf blocks ++ nodesOfNotes rest

end

lemma nodesOf_eq_flatMap (blocks : List Block) : nodesOf blocks = blocks.flatMap Block.nodes := by
  induction blocks with
  | nil => rfl
  | cons block rest ih => rw [nodesOf, ih, List.flatMap_cons]

lemma nodesOfNotes_eq_flatMap (notes : List Note) :
    nodesOfNotes notes = notes.flatMap fun note => nodesOf note.blocks := by
  induction notes with
  | nil => rfl
  | cons note rest ih =>
      obtain ⟨id, number, blocks⟩ := note
      rw [nodesOfNotes, ih, List.flatMap_cons]
      rfl

lemma Block.nodes_of_isLeaf {block : Block} (h : block.isLeaf = true) : block.nodes = [block] := by
  cases block <;> simp_all [Block.isLeaf, Block.nodes]

lemma Block.Holds.nodes_eq {block : Block} {head : Head} {around : Text → Text}
    {blocks : List Block} (h : block.Holds head around blocks) : block.nodes = nodesOf blocks ++ [block] := by
  cases h <;> rw [Block.nodes]

lemma Block.nodes_footnotes (head : Head) (notes : List Note) :
    (Block.footnotes head notes).nodes
      = .footnotes head notes :: notes.flatMap fun note => nodesOf note.blocks := by
  rw [Block.nodes, nodesOfNotes_eq_flatMap]

lemma mem_nodes_self (block : Block) : block ∈ block.nodes := by
  cases block <;> simp [Block.nodes]

lemma mem_nodesOf_of_mem {blocks : List Block} {block node : Block} (hb : block ∈ blocks)
    (hn : node ∈ block.nodes) : node ∈ nodesOf blocks := by
  rw [nodesOf_eq_flatMap]
  exact List.mem_flatMap.mpr ⟨block, hb, hn⟩

/-- What holds of all nodes of a container holds of all nodes of each of its children. -/
lemma Block.Holds.forall_nodes {Q : Block → Prop} {block : Block} {head : Head}
    {around : Text → Text} {blocks : List Block} (h : block.Holds head around blocks)
    (hall : ∀ node ∈ block.nodes, Q node) : ∀ child ∈ blocks, ∀ node ∈ child.nodes, Q node := fun child hc node hn =>
  hall node (by
    rw [h.nodes_eq]
    exact List.mem_append_left _ (mem_nodesOf_of_mem hc hn))

/-- What holds of all nodes of a footnote list holds of all nodes of the blocks of its notes. -/
lemma forall_nodes_of_note {Q : Block → Prop} {head : Head} {notes : List Note}
    (hall : ∀ node ∈ (Block.footnotes head notes).nodes, Q node) :
    ∀ note ∈ notes, ∀ child ∈ note.blocks, ∀ node ∈ child.nodes, Q node :=
  fun note hnote child hc node hn => hall node (by
    rw [Block.nodes_footnotes]
    exact List.mem_cons_of_mem _ (List.mem_flatMap.mpr ⟨note, hnote, mem_nodesOf_of_mem hc hn⟩))

/-! ### Rendering containers -/

lemma mem_withReturnLink {note : Note} {child : Block} (h : child ∈ note.withReturnLink) :
    child ∈ note.blocks ∨ child = .para note.linked.head note.linked.lines := by
  rcases List.mem_append.mp h with h | h
  · exact Or.inl (note.front_prefix.subset h)
  · exact Or.inr (List.mem_singleton.mp h)

/-- The return link goes into a last paragraph that is there already, or into a new one without
attributes. -/
lemma Note.linked_cases (note : Note) :
    (∃ lines, note.blocks = note.linked.front ++ [.para note.linked.head lines])
      ∨ note.linked.front = note.blocks ∧ note.linked.head = {} := by
  rw [linked]
  cases hlast : note.blocks.getLast? with
  | none => exact Or.inr ⟨rfl, rfl⟩
  | some last =>
      have hblocks : note.blocks = note.blocks.dropLast ++ [last] :=
        (List.dropLast_append_getLast? last hlast).symm
      cases last with
      | para head lines =>
          cases hline : lines.getLast? with
          | none => exact Or.inr (by simp [hline])
          | some line => simp only [hline]; exact Or.inl ⟨lines, hblocks⟩
      | _ => exact Or.inr ⟨rfl, rfl⟩

/-- What depends neither on the lines of a last paragraph nor on a last paragraph without attributes
does not see the return link. -/
lemma Note.withReturnLink_eq {β : Type} {f : List Block → β}
    (hlines : ∀ front head lines lines', f (front ++ [.para head lines])
      = f (front ++ [.para head lines']))
    (hnew : ∀ front lines, f (front ++ [.para {} lines]) = f front) (note : Note) :
    f note.withReturnLink = f note.blocks := by
  rw [withReturnLink]
  rcases note.linked_cases with ⟨lines, hblocks⟩ | ⟨hfront, hhead⟩
  · rw [hlines _ _ _ lines, ← hblocks]
  · rw [hhead, hnew, hfront]

/-- A container renders its children, and then puts its own markup around them. -/
lemma renderBlock_of_holds {block : Block} {head : Head} {around : Text → Text}
    {blocks : List Block} (h : block.Holds head around blocks) (ctx : Context) :
    renderBlock ctx block
      = Rendered.part <$> ctx.container head around (blocks.map (renderBlock ctx)) := by
  cases h with
  | quote => rw [renderBlock, renderEach_eq_map, Context.quote]
  | list => rw [renderBlock, renderEach_eq_map, Context.list]
  | item => rw [renderBlock, renderEach_eq_map, Context.item, List.length_map]

/-- The item of a note: its blocks with the return link in place, never tight. -/
def Context.noteItem (ctx : Context) (note : Note) (children : List (RenderM Part)) :
    RenderM Part :=
  Rendered.part <$> ctx.container note.itemHead (itemHtml false) children

/-- A footnote list is a numbered list of the items of its notes. -/
lemma renderBlock_footnotes (ctx : Context) (head : Head) (notes : List Note) :
    renderBlock ctx (.footnotes head notes)
      = Rendered.part <$> ctx.footnotes (notes.map Note.number)
          (notes.map fun note => ctx.noteItem note (note.withReturnLink.map (renderBlock ctx))) := by
  rw [renderBlock, renderNotes_eq]
  congr 2
  refine List.map_congr_left fun note _ => ?_
  rw [renderEach_eq_map, Context.item, Context.noteItem, isTight, Bool.not_true, Bool.and_false]

end BlockTree
