import BlockTree.Block.Dump
import BlockTree.Proofs.Tree
import BlockTree.Proofs.UnknownMembers

/-!
Documents that have been read: their values are allowed, and their dumps are read again.

* `Block.IsAllowed`: the demands on the values of a block; `Role.Allowed` makes them on all blocks of
  what has been read in a role.
* `allowed_of_check`: what is read from a part without handlers is allowed.
* `head_dump`, `list_dumpTexts` and the other lemmas on dumped values: each is read as it is;
  `block_dump`: so is a dumped block, once it is allowed.
* `document_revalidates`: the dump of a document is read as the document, members that are not read do
  not matter, and all its blocks are allowed.
-/

namespace BlockTree

/-- **The demands on a block**: a heading is of one of six levels, notes are numbered from one, rulers,
lists and columns are of one of the kinds that there are, and no block is a plugin. -/
def Block.IsAllowed : Block → Prop
  | .heading _ level _ => 1 ≤ level ∧ level ≤ 6
  | .ruler _ mark => mark.word ∈ (["-", "_", "*"] : List Text)
  | .list _ kind _ => kind.word ∈ (["ul", "ol"] : List Text)
  | .item _ kind _ _ => kind.word ∈ (["ul", "ol"] : List Text)
  | .table _ grid =>
    ∀ alignment ∈ grid.alignments, ∀ side ∈ alignment,
      side.word ∈ (["left", "center", "right"] : List Text)
  | .footnotes _ notes => ∀ note ∈ notes, 1 ≤ Note.number note
  | .plugin _ _ _ => False
  | .foreign _ => False
  | _ => True

lemma RulerMark.word_mem (mark : RulerMark) : mark.word ∈ (["-", "_", "*"] : List Text) := by
  cases mark <;> decide

lemma ListKind.word_mem (kind : ListKind) : kind.word ∈ (["ul", "ol"] : List Text) := by
  cases kind <;> decide

lemma Alignment.word_mem (side : Alignment) :
    side.word ∈ (["left", "center", "right"] : List Text) := by
  cases side <;> decide

namespace Schema

/-! ### Values that have been read -/

/-- All blocks of what has been read in a role are allowed. -/
def Role.Allowed : (role : Role) → role.Result → Prop
  | .document, blocks => ∀ node ∈ nodesOf blocks, Block.IsAllowed node
  | .block, root => ∀ node ∈ Block.nodes root, node.IsAllowed
  | .note, entry => 1 ≤ Note.number entry ∧ ∀ node ∈ nodesOf (Note.blocks entry), node.IsAllowed

lemma allowed_document {blocks : List Block} (h : ∀ block ∈ blocks, Role.block.Allowed block) :
    Role.document.Allowed blocks := by
  intro node hnode
  rw [nodesOf_eq_flatMap] at hnode
  obtain ⟨block, hblock, hinside⟩ := List.mem_flatMap.mp hnode
  exact h block hblock node hinside

lemma allowed_of_isLeaf {block : Block} (hleaf : block.isLeaf = true) (h : block.IsAllowed) :
    Role.block.Allowed block := by
  intro node hnode
  rw [Block.nodes_of_isLeaf hleaf, List.mem_singleton] at hnode
  exact hnode ▸ h

lemma allowed_of_holds {block : Block} {head : Head} {around : Text → Text} {blocks : List Block}
    (hholds : block.Holds head around blocks) (h : block.IsAllowed)
    (hblocks : ∀ child ∈ blocks, Role.block.Allowed child) : Role.block.Allowed block := by
  intro node hnode
  rw [hholds.nodes_eq] at hnode
  rcases List.mem_append.mp hnode with hinside | hself
  · exact allowed_document hblocks node hinside
  · exact List.mem_singleton.mp hself ▸ h

lemma allowed_footnotes (head : Head) {notes : List Note}
    (h : ∀ note ∈ notes, Role.note.Allowed note) : Role.block.Allowed (.footnotes head notes) := by
  intro node hnode
  rw [Block.nodes_footnotes] at hnode
  rcases List.mem_cons.mp hnode with rfl | hinside
  · exact fun note hnote => (h note hnote).1
  · obtain ⟨note, hnote, hdeep⟩ := List.mem_flatMap.mp hinside
    exact (h note hnote).2 node hdeep

lemma integerFrom_eq_ok {least n : Int} {data : Data} (h : integerFrom least data = .ok n) :
    least ≤ n := by
  obtain ⟨-, hbound⟩ := Check.ensure_eq_ok.mp h
  split at hbound
  · cases hbound
  · omega

lemma integerBetween_eq_ok {least greatest n : Int} {data : Data}
    (h : integerBetween least greatest data = .ok n) : least ≤ n ∧ n ≤ greatest := by
  obtain ⟨hfrom, hbound⟩ := Check.ensure_eq_ok.mp h
  refine ⟨integerFrom_eq_ok hfrom, ?_⟩
  split at hbound
  · cases hbound
  · omega

variable (registry : Registry)

/-- What is read as a block of a kind without parts is allowed, if no handler is named. A plugin without
its handler is not read. -/
lemma allowed_of_leafBlock {kind : BlockKind} (hleaf : heldRole? kind = none)
    {members : List (Text × Data)} {block : Block}
    (hhandler : kind = .plugin → Entries.find? "handler" members = none)
    (h : leafBlock registry kind members = .ok block) : Role.block.Allowed block := by
  have hboth : block.isLeaf = true ∧ block.IsAllowed := by
    cases kind with
    | quote => cases hleaf
    | list => cases hleaf
    | item => cases hleaf
    | footnotes => cases hleaf
    | plugin =>
        obtain ⟨_, _, -, hrequired, -⟩ := Check.seq_eq_ok.mp h
        obtain ⟨data, hdata, -⟩ := Check.required_eq_ok.mp hrequired
        rw [hhandler rfl] at hdata
        cases hdata
    | heading =>
        obtain ⟨_, content, hfront, -, rfl⟩ := Check.seq_eq_ok.mp h
        obtain ⟨head, level, -, hlevel, rfl⟩ := Check.map_seq_eq_ok.mp hfront
        obtain ⟨data, -, hread⟩ := Check.required_eq_ok.mp hlevel
        exact ⟨rfl, integerBetween_eq_ok hread⟩
    | ruler =>
        obtain ⟨head, mark, -, -, rfl⟩ := Check.map_seq_eq_ok.mp h
        exact ⟨rfl, mark.word_mem⟩
    | table =>
        obtain ⟨head, grid, -, -, rfl⟩ := Check.map_seq_eq_ok.mp h
        exact ⟨rfl, fun _ _ side _ => side.word_mem⟩
    | code =>
        obtain ⟨_, language, hfront, -, rfl⟩ := Check.seq_eq_ok.mp h
        obtain ⟨head, lines, -, -, rfl⟩ := Check.map_seq_eq_ok.mp hfront
        exact ⟨rfl, trivial⟩
    | linkTarget =>
        obtain ⟨_, title, hmost, -, rfl⟩ := Check.seq_eq_ok.mp h
        obtain ⟨_, url, hfront, -, rfl⟩ := Check.seq_eq_ok.mp hmost
        obtain ⟨head, id, -, -, rfl⟩ := Check.map_seq_eq_ok.mp hfront
        exact ⟨rfl, trivial⟩
    | _ =>
        obtain ⟨head, content, -, -, rfl⟩ := Check.map_seq_eq_ok.mp h
        exact ⟨rfl, trivial⟩
  exact allowed_of_isLeaf hboth.1 hboth.2

/-- What is read from a list of parts is allowed if what is read from each of them is. -/
lemma allowed_of_parts {role : Role} {members : List (Text × Data)} {results : List role.Result}
    (hread : Check.default members "blocks" [] (list (role.check registry)) = .ok results)
    (hparts : ∀ parts, Entries.find? "blocks" members = some (.arr parts) →
      ∀ part ∈ parts, ∀ result, role.check registry part = .ok result → role.Allowed result) :
    ∀ result ∈ results, role.Allowed result := by
  rcases Check.default_eq_ok.mp hread with ⟨-, rfl⟩ | ⟨data, hdata, hlist⟩
  · exact nofun
  · cases data with
    | arr parts => exact Check.forall_of_items_eq_ok hlist (hparts parts hdata)
    | _ => cases hlist

/-- What is read as a block of a kind that holds parts is allowed if what is read from these is. -/
lemma allowed_of_blockOf {kind : BlockKind} {inner : Role} (hinner : heldRole? kind = some inner)
    {members : List (Text × Data)} {block : Block} (h : blockOf registry kind members = .ok block)
    (hparts : ∀ parts, Entries.find? "blocks" members = some (.arr parts) →
      ∀ part ∈ parts, ∀ result, inner.check registry part = .ok result → inner.Allowed result) :
    Role.block.Allowed block := by
  cases kind with
  | quote =>
      cases hinner
      rw [blockOf, blocksIn_eq] at h
      obtain ⟨head, blocks, -, hblocks, rfl⟩ := Check.map_seq_eq_ok.mp h
      exact allowed_of_holds (.quote head blocks) trivial (allowed_of_parts registry hblocks hparts)
  | list =>
      cases hinner
      rw [blockOf, blocksIn_eq] at h
      obtain ⟨_, blocks, hfront, hblocks, rfl⟩ := Check.seq_eq_ok.mp h
      obtain ⟨head, kind, -, -, rfl⟩ := Check.map_seq_eq_ok.mp hfront
      exact allowed_of_holds (.list head kind blocks) kind.word_mem
        (allowed_of_parts registry hblocks hparts)
  | item =>
      cases hinner
      rw [blockOf, blocksIn_eq] at h
      obtain ⟨_, spaced, hmost, -, rfl⟩ := Check.seq_eq_ok.mp h
      obtain ⟨_, blocks, hfront, hblocks, rfl⟩ := Check.seq_eq_ok.mp hmost
      obtain ⟨head, kind, -, -, rfl⟩ := Check.map_seq_eq_ok.mp hfront
      exact allowed_of_holds (.item head kind blocks spaced) kind.word_mem
        (allowed_of_parts registry hblocks hparts)
  | footnotes =>
      cases hinner
      rw [blockOf, notesIn_eq] at h
      obtain ⟨head, notes, -, hnotes, rfl⟩ := Check.map_seq_eq_ok.mp h
      exact allowed_footnotes head (allowed_of_parts registry hnotes hparts)
  | _ => cases hinner

/-- **What is read from a part without handlers is allowed.** -/
theorem allowed_of_check {role : Role} {value : Data} (hfree : HandlerFree role value) :
    ∀ result, role.check registry value = .ok result → role.Allowed result := by
  refine HandlerFree.ind (P := fun role read => ∀ result, read = .ok result → role.Allowed result)
    registry ?_ ?_ ?_ ?_ ?_ hfree
  · exact nofun
  · intro members hparts blocks hread
    rw [blocksIn_eq] at hread
    exact allowed_document (allowed_of_parts registry hread hparts)
  · intro members hparts entry hread
    rw [noteOf, blocksIn_eq] at hread
    obtain ⟨_, blocks, hfront, hblocks, rfl⟩ := Check.seq_eq_ok.mp hread
    obtain ⟨id, number, -, hnumber, rfl⟩ := Check.map_seq_eq_ok.mp hfront
    obtain ⟨data, -, hinteger⟩ := Check.required_eq_ok.mp hnumber
    exact ⟨integerFrom_eq_ok hinteger, allowed_document (allowed_of_parts registry hblocks hparts)⟩
  · intro kind inner members hinner hparts root hread
    exact allowed_of_blockOf registry hinner (Check.within_eq_ok.mp hread) hparts
  · intro kind members hleaf hhandler root hread
    exact allowed_of_leafBlock registry hleaf hhandler (Check.within_eq_ok.mp hread)

/-! ### Dumped values -/

section

variable {α : Type} {members : List (Text × Data)} {name : Text} {data : Data} {value : α}
  {check : Data → Check α}

lemma read_member (absent : α) (hfind : Entries.find? name members = some data)
    (hread : check data = .ok value) : Check.default members name absent check = .ok value :=
  Check.default_eq_ok.mpr (Or.inr ⟨data, hfind, hread⟩)

lemma read_required (hfind : Entries.find? name members = some data)
    (hread : check data = .ok value) : Check.required members name check = .ok value :=
  Check.required_eq_ok.mpr ⟨data, hfind, hread⟩

/-- A list of dumped values is read as it is if each of them is. -/
lemma list_map {dump : α → Data} {values : List α}
    (h : ∀ value ∈ values, check (dump value) = .ok value) :
    list check (.arr (values.map dump)) = .ok values :=
  Check.items_eq_ok.mpr (List.forall₂_map_left_iff.mpr (List.forall₂_same.mpr h))

end

lemma list_dumpTexts (texts : List Text) : list text (dumpTexts texts) = .ok texts :=
  list_map fun _ _ => rfl

lemma optional_dumpOptional (value : Option Text) :
    optional text (dumpOptional value) = .ok value := by
  cases value <;> rfl

lemma integerFrom_int {least n : Int} (h : least ≤ n) : integerFrom least (.int n) = .ok n := by
  refine Check.ensure_eq_ok.mpr ⟨rfl, ?_⟩
  rw [if_neg (by omega)]

lemma integerBetween_int {least greatest n : Int} (hleast : least ≤ n) (hgreatest : n ≤ greatest) :
    integerBetween least greatest (.int n) = .ok n := by
  refine Check.ensure_eq_ok.mpr ⟨integerFrom_int hleast, ?_⟩
  rw [if_neg (by omega)]

lemma attributesSpec_dump (attributes : Attributes.Spec) :
    attributesSpec (attributes.dump Attributes.toData) = .ok attributes := by
  cases attributes with
  | absent => rfl
  | written raw => rfl
  | listed attributes =>
      have hentries : entries (list text) (attributes.map fun entry => (entry.1, dumpTexts entry.2))
          = .ok attributes := by
        induction attributes with
        | nil => rfl
        | cons entry rest ih =>
            rw [List.map_cons, entries, list_dumpTexts, ih]
            rfl
      simp only [Attributes.Spec.dump, Attributes.toData, attributesSpec, mapping, hentries]
      rfl

/-! ### Dumped blocks -/

/-- The members of a dumped block. -/
def dumpedMembers (kind : BlockKind) (head : Head) (own : List (Text × Data)) :
    List (Text × Data) :=
  ("attrs", head.attributes.dump Attributes.toData) :: ("lnb", .int head.line)
    :: ("kind", .str kind.word) :: own

lemma head_dump (kind : BlockKind) (head : Head) (own : List (Text × Data)) :
    Schema.head (dumpedMembers kind head own) = .ok head := by
  change Head.mk <$> (attributesSpec _).within _ <*> .ok head.line = _
  rw [attributesSpec_dump]
  rfl

/-- What is put together with the head of a dumped block. -/
lemma map_head_dump {α : Type} (f : Head → α) (kind : BlockKind) (head : Head)
    (own : List (Text × Data)) : f <$> Schema.head (dumpedMembers kind head own) = .ok (f head) :=
  Check.map_eq_ok.mpr ⟨head, head_dump kind head own, rfl⟩

lemma block_dumpMembers {kind : BlockKind} {head : Head} {own : List (Text × Data)} {root : Block}
    (h : blockOf registry kind (dumpedMembers kind head own) = .ok root) :
    block registry (dumpMembers Attributes.toData kind head own) = .ok root := by
  rw [dumpMembers, block_eq registry kind rfl, Check.within_eq_ok]
  exact h

lemma read_seq {α β : Type} {f : Check (α → β)} {x : Check α} {g : α → β} {a : α} (hf : f = .ok g)
    (hx : x = .ok a) : f <*> x = .ok (g a) :=
  Check.seq_eq_ok.mpr ⟨g, a, hf, hx, rfl⟩

/-- A dumped table has the rows and columns of the table. -/
lemma grid_dump (head : Head) (table : Grid) :
    grid (dumpedMembers .table head table.dump) = .ok table := by
  have hheader : optional (list text) ((table.header.map dumpTexts).getD .null) = .ok table.header := by
    cases table.header with
    | none => rfl
    | some texts => exact Check.map_eq_ok.mpr ⟨texts, list_dumpTexts texts, rfl⟩
  have hrows : list (list text) (.arr (table.rows.map dumpTexts)) = .ok table.rows :=
    list_map fun texts _ => list_dumpTexts texts
  have halignments : list (optional (oneOf Alignment.word [.left, .center, .right]))
      (.arr (table.alignments.map fun align => dumpOptional (align.map Alignment.word)))
        = .ok table.alignments := by
    refine list_map fun align _ => ?_
    cases align with
    | none => rfl
    | some side => cases side <;> rfl
  exact read_seq (read_seq (Check.map_eq_ok.mpr ⟨_, read_member _ rfl hheader, rfl⟩)
    (read_member _ rfl hrows)) (read_member _ rfl halignments)

/-- **A dumped block without parts** is read as it is, once it is allowed. -/
lemma block_dump_leaf {root : Block} (hleaf : root.isLeaf = true) (hallowed : root.IsAllowed) :
    block registry (root.dumpWith Attributes.toData) = .ok root := by
  have hread : ∀ {kind : BlockKind} {head : Head} {own : List (Text × Data)},
      heldRole? kind = none → leafBlock registry kind (dumpedMembers kind head own) = .ok root →
        block registry (dumpMembers Attributes.toData kind head own) = .ok root :=
    fun hinner h => block_dumpMembers registry ((blockOf_eq_leafBlock registry hinner _).trans h)
  cases root with
  | quote => cases hleaf
  | list => cases hleaf
  | item => cases hleaf
  | footnotes => cases hleaf
  | plugin => exact hallowed.elim
  | foreign => exact hallowed.elim
  | para head lines =>
      rw [Block.dumpWith]
      exact hread rfl (read_seq (map_head_dump _ _ _ _) (read_member _ rfl (list_dumpTexts lines)))
  | heading head level content =>
      rw [Block.dumpWith]
      have hlevel := integerBetween_int hallowed.1 hallowed.2
      exact hread rfl (read_seq (read_seq (map_head_dump _ _ _ _) (read_required rfl hlevel))
        (read_member _ rfl rfl))
  | code head lines language =>
      rw [Block.dumpWith]
      exact hread rfl (read_seq (read_seq (map_head_dump _ _ _ _)
        (read_member _ rfl (list_dumpTexts lines)))
        (read_member _ rfl (optional_dumpOptional language)))
  | ruler head mark =>
      rw [Block.dumpWith]
      exact hread rfl (read_seq (map_head_dump _ _ _ _)
        (read_member _ rfl (by cases mark <;> rfl)))
  | table head grid =>
      rw [Block.dumpWith]
      exact hread rfl (read_seq (map_head_dump _ _ _ _) (grid_dump head grid))
  | html head lines =>
      rw [Block.dumpWith]
      exact hread rfl (read_seq (map_head_dump _ _ _ _) (read_member _ rfl (list_dumpTexts lines)))
  | htmlOther head lines =>
      rw [Block.dumpWith]
      exact hread rfl (read_seq (map_head_dump _ _ _ _) (read_member _ rfl (list_dumpTexts lines)))
  | attributeList head content =>
      rw [Block.dumpWith]
      exact hread rfl (read_seq (map_head_dump _ _ _ _) (read_member _ rfl rfl))
  | linkTarget head id url title =>
      rw [Block.dumpWith]
      exact hread rfl (read_seq (read_seq (read_seq (map_head_dump _ _ _ _)
        (read_member _ rfl (optional_dumpOptional id)))
        (read_member _ rfl (optional_dumpOptional url)))
        (read_member _ rfl (optional_dumpOptional title)))

lemma dumpBlocks_eq_map (form : Attributes → Data) (blocks : List Block) :
    dumpBlocks form blocks = blocks.map (Block.dumpWith form) := by
  induction blocks with
  | nil => rfl
  | cons root rest ih => rw [dumpBlocks, ih, List.map_cons]

lemma dumpNotes_eq_map (form : Attributes → Data) (notes : List Note) :
    dumpNotes form notes = notes.map (Note.dumpWith form) := by
  induction notes with
  | nil => rfl
  | cons entry rest ih => rw [dumpNotes, ih, List.map_cons]

/-- **A dump is read as what was dumped.** -/
def Redumps (root : Block) : Prop :=
  block registry (root.dumpWith Attributes.toData) = .ok root

lemma blocksIn_dump {members : List (Text × Data)} {blocks : List Block}
    (hfind : Entries.find? "blocks" members = some (.arr (dumpBlocks Attributes.toData blocks)))
    (h : ∀ child ∈ blocks, Redumps registry child) : blocksIn registry members = .ok blocks := by
  rw [dumpBlocks_eq_map] at hfind
  rw [blocksIn_eq]
  exact read_member _ hfind (list_map h)

lemma note_dump {entry : Note} (hnumber : 1 ≤ entry.number)
    (h : ∀ child ∈ entry.blocks, Redumps registry child) :
    note registry (entry.dumpWith Attributes.toData) = .ok entry := by
  obtain ⟨id, number, blocks⟩ := entry
  rw [Note.dumpWith, note, noteOf]
  refine read_seq (read_seq ?_ (read_required rfl (integerFrom_int hnumber)))
    (blocksIn_dump registry rfl h)
  exact Check.map_eq_ok.mpr ⟨id, read_member _ rfl (optional_dumpOptional id), rfl⟩

lemma notesIn_dump {members : List (Text × Data)} {notes : List Note}
    (hfind : Entries.find? "blocks" members = some (.arr (dumpNotes Attributes.toData notes)))
    (h : ∀ entry ∈ notes, 1 ≤ entry.number ∧ ∀ child ∈ entry.blocks, Redumps registry child) :
    notesIn registry members = .ok notes := by
  rw [dumpNotes_eq_map] at hfind
  rw [notesIn_eq]
  exact read_member _ hfind (list_map fun entry hentry =>
    note_dump registry (h entry hentry).1 (h entry hentry).2)

/-- **A dumped block is read as it is**, once all its blocks are allowed. -/
theorem block_dump {root : Block} (hallowed : Role.block.Allowed root) : Redumps registry root := by
  induction root using Block.ind with
  | leaf root hleaf =>
      exact block_dump_leaf registry hleaf (hallowed root (mem_nodes_self root))
  | holds root head around blocks hholds ih =>
      have hblocks : ∀ child ∈ blocks, Redumps registry child := fun child hchild =>
        ih child hchild (hholds.forall_nodes hallowed child hchild)
      cases hholds with
      | quote =>
          rw [Redumps, Block.dumpWith]
          refine block_dumpMembers registry ?_
          rw [blockOf]
          exact read_seq (map_head_dump _ _ _ _) (blocksIn_dump registry rfl hblocks)
      | list head kind =>
          rw [Redumps, Block.dumpWith]
          refine block_dumpMembers registry ?_
          rw [blockOf]
          exact read_seq (read_seq (map_head_dump _ _ _ _) (read_member _ rfl (by cases kind <;> rfl)))
            (blocksIn_dump registry rfl hblocks)
      | item head kind blocks spaced =>
          rw [Redumps, Block.dumpWith]
          refine block_dumpMembers registry ?_
          rw [blockOf]
          exact read_seq (read_seq (read_seq (map_head_dump _ _ _ _)
            (read_member _ rfl (by cases kind <;> rfl))) (blocksIn_dump registry rfl hblocks))
            (read_member _ rfl rfl)
  | footnotes head notes ih =>
      have hnotes : ∀ entry ∈ notes,
          1 ≤ entry.number ∧ ∀ child ∈ entry.blocks, Redumps registry child :=
        fun entry hentry => ⟨hallowed _ (mem_nodes_self _) entry hentry, fun child hchild =>
          ih entry hentry child hchild (forall_nodes_of_note hallowed entry hentry child hchild)⟩
      rw [Redumps, Block.dumpWith]
      refine block_dumpMembers registry ?_
      rw [blockOf]
      exact read_seq (map_head_dump _ _ _ _) (notesIn_dump registry rfl hnotes)

/-! ### Documents -/

lemma document_dump {blocks : List Block} (hallowed : Role.document.Allowed blocks) :
    document registry (dumpDocument Attributes.toData blocks) = .ok blocks := by
  rw [dumpDocument, document]
  refine blocksIn_dump registry rfl fun child hchild => block_dump registry fun node hnode => ?_
  exact hallowed node (mem_nodesOf_of_mem hchild hnode)

/-- **A document without handlers that has been read** is read again from its dump, unchanged. It is also
read from the data with members of other names added to the document, to its blocks and to its notes, at
any depth. All its blocks, at any depth, are allowed. -/
theorem document_revalidates {value : Data} {blocks : List Block} (hfree : HandlerFree .document value)
    (hread : document registry value = .ok blocks) :
    document registry (dumpDocument Attributes.toData blocks) = .ok blocks
      ∧ (∀ other, Relation.ReflTransGen (AddsMember .document) value other →
          document registry other = .ok blocks)
      ∧ ∀ node ∈ nodesOf blocks, node.IsAllowed := by
  have hallowed : Role.document.Allowed blocks := allowed_of_check registry hfree blocks hread
  exact ⟨document_dump registry hallowed,
    fun other hadds => (check_eq_of_adds registry hadds).trans hread, hallowed⟩

/-- A heading whose level is a truth value. -/
def looseHeading : Data :=
  .obj [("kind", .str "heading"), ("level", .bool true),
    ("attrs", .obj [("class", .arr [.str "wide"])])]

/-- A footnote list with a single note, which is given. -/
def singleList (entry : Data) : Data :=
  .obj [("kind", .str "fn_list"), ("blocks", .arr [entry])]

/-- A document with such a list. -/
def notedDocument (entry : Data) : Data :=
  .obj [("blocks", .arr [singleList entry])]

/-- A note whose number is a text. -/
def looseNote : Data :=
  .obj [("number", .str "2"), ("blocks", .arr [looseHeading])]

/-- The note with a member that is not read. -/
def markedNote : Data :=
  .obj [("number", .str "2"), ("colour", .null), ("blocks", .arr [looseHeading])]

/-- The block that is read from the heading. -/
def firstHeading : Block :=
  .heading { attributes := .listed [("class", ["wide"])] } 1 []

/-- The blocks that are read from the document. -/
def notedBlocks : List Block :=
  [.footnotes {} [.mk none 2 [firstHeading]]]

/-- A level and a number are read from a truth value and from a text, and from themselves after that; the
member that is not read does not matter. -/
theorem document_revalidates_noted :
    HandlerFree .document (notedDocument looseNote)
      ∧ document [] (notedDocument looseNote) = .ok notedBlocks
      ∧ document [] (dumpDocument Attributes.toData notedBlocks) = .ok notedBlocks
      ∧ document [] (notedDocument markedNote) = .ok notedBlocks
      ∧ ∀ node ∈ nodesOf notedBlocks, node.IsAllowed := by
  have hfree : HandlerFree .document (notedDocument looseNote) :=
    handlerFree_of_hasHandledPlugin (by decide) .document
  have hheading : block [] looseHeading = .ok firstHeading := by
    rw [looseHeading, block_eq [] .heading rfl, blockOf_eq_leafBlock [] rfl]
    rfl
  have hnote : note [] looseNote = .ok (.mk none 2 [firstHeading]) := by
    rw [looseNote, note, noteOf, blocksIn_eq]
    change Note.mk <$> _ <*> _ <*> (items (block []) 0 [looseHeading]).within _ = _
    rw [items, hheading]
    rfl
  have hlist : block [] (singleList looseNote) = .ok (.footnotes {} [.mk none 2 [firstHeading]]) := by
    rw [singleList, block_eq [] .footnotes rfl, blockOf, notesIn_eq]
    change Check.within _ (Block.footnotes <$> _ <*> (items (note []) 0 [looseNote]).within _) = _
    rw [items, hnote]
    rfl
  have hread : document [] (notedDocument looseNote) = .ok notedBlocks := by
    rw [notedDocument, document, blocksIn_eq]
    change (items (block []) 0 [singleList looseNote]).within _ = _
    rw [items, hlist]
    rfl
  have hmarked : AddsMember .note looseNote markedNote :=
    .here (show looseNote.members? = some ([("number".toList, .str "2")] ++ _) from rfl) rfl (by decide)
  have hinside : AddsMember .block (singleList looseNote) (singleList markedNote) :=
    .inside rfl (.block (show _ = some (Data.str BlockKind.footnotes.word) from rfl) rfl)
      (show _ = some (Data.arr ([] ++ looseNote :: [])) from rfl) hmarked rfl
  have hadds : AddsMember .document (notedDocument looseNote) (notedDocument markedNote) :=
    .inside rfl (.document _) (show _ = some (Data.arr ([] ++ singleList looseNote :: [])) from rfl)
      hinside rfl
  obtain ⟨hdump, hother, hallowed⟩ := document_revalidates [] hfree hread
  exact ⟨hfree, hread, hdump, hother _ (.single hadds), hallowed⟩

end Schema

end BlockTree
