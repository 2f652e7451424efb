import BlockTree.Proofs.FirstFault

/-!
Handlers that take notes: a document with the replies of one rendering recorded in it.

* `Follows`: what an action comes to in one state, and the state after it unless it fails; it is
  carried through programs and dispatches as `Settles` is.
* `Block.recorded`: the block in which each handler gives, whatever it is asked, the reply that it
  gave when the handlers were called one after another in document order.
* `renderBlock_follows`: a block comes to what its recorded block settles on, so that
  `faultOf_renderBlocks_recorded` finds the fault of a rendering in the recorded document.
-/

namespace BlockTree

/-! ### Following actions -/

section

variable {ε σ α β : Type}

/-- **An action follows** from this state to an outcome, and to that state unless it fails. -/
def Follows (action : Action ε σ α) (s : σ) (outcome : Except ε α) (t : σ) : Prop :=
  (action s).1 = outcome ∧ ∀ a, outcome = .ok a → (action s).2 = t

lemma Settles.follows {action : Action ε σ α} {x : Except ε α} (h : Settles action x) (s : σ) :
    Follows action s x s := by
  rw [Follows, h s]
  exact ⟨rfl, fun _ _ => rfl⟩

lemma Follows.bind {action : Action ε σ α} {x : Except ε α} {s t : σ} {next : α → Action ε σ β}
    {y : α → Except ε β} (h : Follows action s x t) (hnext : ∀ a, Settles (next a) (y a)) :
    Follows (action >>= next) s (x >>= y) t := by
  obtain ⟨hx, ht⟩ := h
  rw [Follows, Action.bind_apply]
  rcases hs : action s with ⟨z, u⟩
  rw [hs] at hx ht
  obtain rfl : z = x := hx
  cases z with
  | error e => exact ⟨rfl, fun b hb => nomatch hb⟩
  | ok a =>
      obtain rfl : u = t := ht a rfl
      exact (hnext a).follows u

lemma Follows.map {action : Action ε σ α} {x : Except ε α} {s t : σ} (h : Follows action s x t)
    (f : α → β) : Follows (f <$> action) s (x.map f) t := by
  rw [Follows, Action.map_apply]
  refine ⟨congrArg (Except.map f) h.1, fun b hb => ?_⟩
  obtain ⟨a, ha, -⟩ := map_eq_ok_iff.mp hb
  exact h.2 a ha

/-- **Actions follow one another**: each starts where the one before would end. -/
inductive FollowsEach : List (Action ε σ α) → σ → List (Except ε α) → σ → Prop where
  | nil (s : σ) : FollowsEach [] s [] s
  | cons {action : Action ε σ α} {actions : List (Action ε σ α)} {s t u : σ} {x : Except ε α}
      {outcomes : List (Except ε α)} : Follows action s x t → FollowsEach actions t outcomes u →
      FollowsEach (action :: actions) s (x :: outcomes) u

lemma runInTurn_follows {actions : List (Action ε σ α)} {s t : σ} {outcomes : List (Except ε α)}
    (h : FollowsEach actions s outcomes t) (index : Nat → Nat) :
    Follows (runInTurn (actions.mapIdx fun i action => (index i, action))) s
      (collect (outcomes.mapIdx fun i outcome => (index i, outcome))) t := by
  induction h generalizing index with
  | nil s => exact (settles_pure []).follows s
  | @cons action actions s t u x outcomes hx _ ih =>
      obtain ⟨hfst, hsnd⟩ := ih fun i => index (i + 1)
      obtain ⟨hx, ht⟩ := hx
      rw [Follows, List.mapIdx_cons, List.mapIdx_cons, runInTurn_cons]
      rcases hs : action s with ⟨z, v⟩
      rw [hs] at hx ht
      obtain rfl : z = x := hx
      cases z with
      | error e => exact ⟨rfl, fun b hb => nomatch hb⟩
      | ok a =>
          obtain rfl : v = t := ht a rfl
          refine ⟨congrArg (Except.map ((index 0, a) :: ·)) hfst, fun results hresults => ?_⟩
          obtain ⟨others, ho, -⟩ := map_eq_ok_iff.mp hresults
          exact hsnd others ho

/-- In document order, a dispatch collects the outcomes of siblings that follow one another. -/
lemma Dispatch.run_follows {dispatch : Dispatch} (horder : dispatch.InOrder)
    {actions : List (Action ε σ α)} {s t : σ} {outcomes : List (Except ε α)}
    (h : FollowsEach actions s outcomes t) :
    Follows (dispatch.run actions) s (collect (dispatch.asked (dispatch.pick outcomes))) t := by
  obtain ⟨houtcome, hstate⟩ := runInTurn_follows h id
  obtain ⟨hfst, hsnd⟩ := dispatch.run_of_inOrder horder actions s
  rw [dispatch.asked_pick (.inl horder)]
  refine ⟨hfst.trans houtcome, fun results hresults => ?_⟩
  rw [hsnd results (houtcome.trans hresults)]
  exact hstate results hresults

end

section

variable {ctx : Context}

lemma Context.renderSiblings_follows (horder : ctx.dispatch.InOrder)
    {siblings : List (RenderM Part)} {s t : Journal} {outcomes : List (Except Fault Part)}
    (h : FollowsEach siblings s outcomes t) :
    Follows (ctx.renderSiblings siblings) s (joined ctx.dispatch outcomes) t :=
  (Dispatch.run_follows horder h).bind fun _ => settles_liftM _

lemma Context.container_follows (horder : ctx.dispatch.InOrder) (head : Head)
    (around : Text → Text) {children : List (RenderM Part)} {s t : Journal}
    {outcomes : List (Except Fault Part)} (h : FollowsEach children s outcomes t) :
    Follows (ctx.container head around children) s
      (joined ctx.dispatch outcomes >>= ctx.wrapped head around) t :=
  (Context.renderSiblings_follows horder h).bind fun _ => settles_liftM _

lemma Context.footnotes_follows (horder : ctx.dispatch.InOrder) (numbers : List Int)
    {items : List (RenderM Part)} {s t : Journal} {outcomes : List (Except Fault Part)}
    (h : FollowsEach items s outcomes t) :
    Follows (ctx.footnotes numbers items) s (ctx.listed numbers outcomes) t := by
  rw [footnotes, listed]
  split
  · exact (Context.container_follows horder {} (listHtml .numbered) h).map _
  · exact ⟨rfl, fun a ha => absurd ha (by simp)⟩

end

/-! ### Recorded blocks -/

/-- The handler that gives one reply, whatever it is asked. -/
def Handler.giving (handler : Handler) (reply : Reply) : Handler :=
  .ofLines handler.label fun _ => reply

mutual

/-- **The recorded block**, and the journal after its handlers were called in document order. -/
def Block.recorded : Block → Journal → Block × Journal
  | .quote head blocks, s => (.quote head (recordedEach blocks s).1, (recordedEach blocks s).2)
  | .list head kind blocks, s =>
    (.list head kind (recordedEach blocks s).1, (recordedEach blocks s).2)
  | .item head kind blocks spaced, s =>
    (.item head kind (recordedEach blocks s).1 spaced, (recordedEach blocks s).2)
  | .footnotes head notes, s =>
    (.footnotes head (recordedNotes notes s).1, (recordedNotes notes s).2)
  | .plugin head lines handler, s =>
    (.plugin head lines (handler.giving (handler.render lines s).1), (handler.render lines s).2)
  | block, s => (block, s)

/-- Recorded siblings. -/
def recordedEach : List Block → Journal → List Block × Journal
  | [], s => ([], s)
  | block :: rest, s =>
    ((block.recorded s).1 :: (recordedEach rest (block.recorded s).2).1,
      (recordedEach rest (block.recorded s).2).2)

/-- Recorded notes. -/
def recordedNotes : List Note → Journal → List Note × Journal
  | [], s => ([], s)
  | .mk id number blocks :: rest, s =>
    (.mk id number (recordedEach blocks s).1 :: (recordedNotes rest (recordedEach blocks s).2).1,
      (recordedNotes rest (recordedEach blocks s).2).2)

end

/-- A recorded note, and the journal after its handlers were called. -/
def Note.recorded : Note → Journal → Note × Journal
  | .mk id number blocks, s => (.mk id number (recordedEach blocks s).1, (recordedEach blocks s).2)

lemma recordedNotes_cons (note : Note) (rest : List Note) (s : Journal) :
    recordedNotes (note :: rest) s
      = ((note.recorded s).1 :: (recordedNotes rest (note.recorded s).2).1,
        (recordedNotes rest (note.recorded s).2).2) := by
  obtain ⟨id, number, blocks⟩ := note
  rw [recordedNotes, Note.recorded]

lemma length_recordedEach (blocks : List Block) (s : Journal) :
    (recordedEach blocks s).1.length = blocks.length := by
  induction blocks generalizing s with
  | nil => rfl
  | cons block rest ih => rw [recordedEach, List.length_cons, ih, List.length_cons]

lemma recordedEach_append (front back : List Block) (s : Journal) :
    recordedEach (front ++ back) s
      = ((recordedEach front s).1 ++ (recordedEach back (recordedEach front s).2).1,
        (recordedEach back (recordedEach front s).2).2) := by
  induction front generalizing s with
  | nil => rfl
  | cons block rest ih => rw [List.cons_append, recordedEach, ih, recordedEach, List.cons_append]

lemma Block.Holds.recorded {block : Block} {head : Head} {around : Text → Text}
    {blocks : List Block} (h : block.Holds head around blocks) (s : Journal) :
    (block.recorded s).1.Holds head around (recordedEach blocks s).1
      ∧ (block.recorded s).2 = (recordedEach blocks s).2 := by
  cases h with
  | quote => exact ⟨by rw [Block.recorded]; exact .quote _ _, by rw [Block.recorded]⟩
  | list => exact ⟨by rw [Block.recorded]; exact .list _ _ _, by rw [Block.recorded]⟩
  | item kind spaced =>
      refine ⟨?_, by rw [Block.recorded]⟩
      rw [Block.recorded, ← length_recordedEach blocks s]
      exact .item _ _ _ _

/-! ### The return link of a recorded note -/

lemma withReturnLink_of_line {id : Option Text} {number : Int} {front : List Block} {head : Head}
    {lines : List Text} {line : Text} (h : lines.getLast? = some line) :
    (Note.mk id number (front ++ [.para head lines])).withReturnLink
      = front ++ [.para head
          (lines.dropLast ++ [line ++ "&nbsp;" ++ Markup.returnLink number])] := by
  simp [Note.withReturnLink, Note.linked, Note.blocks, Note.number, h]

lemma withReturnLink_of_no_line {id : Option Text} {number : Int} {blocks : List Block}
    (h : ∀ head lines, blocks.getLast? = some (.para head lines) → lines.getLast? = none) :
    (Note.mk id number blocks).withReturnLink
      = blocks ++ [.para {} [Markup.returnLink number]] := by
  rw [Note.withReturnLink, Note.linked, Note.blocks]
  cases hlast : blocks.getLast? with
  | none => rfl
  | some last =>
      cases last with
      | para head lines =>
          simp only [h head lines hlast]
          rfl
      | _ => rfl

lemma recordedEach_para (head : Head) (lines : List Text) (s : Journal) :
    recordedEach [.para head lines] s = ([.para head lines], s) := by
  rw [recordedEach, Block.recorded, recordedEach] <;> nofun

lemma eq_para_of_recorded {block : Block} {s : Journal} {head : Head} {lines : List Text}
    (h : (block.recorded s).1 = .para head lines) : block = .para head lines := by
  cases block <;> simp_all [Block.recorded]

/-- A recorded note ends in the same paragraph, or like the note in none. -/
lemma getLast?_recordedEach {blocks : List Block} {s : Journal} {head : Head} {lines : List Text}
    (h : (recordedEach blocks s).1.getLast? = some (.para head lines)) :
    blocks.getLast? = some (.para head lines) := by
  rcases List.eq_nil_or_concat' blocks with rfl | ⟨front, last, rfl⟩
  · exact h
  · rw [recordedEach_append, recordedEach, recordedEach, List.getLast?_concat,
      Option.some.injEq] at h
    rw [List.getLast?_concat, eq_para_of_recorded h]

/-- **The return link is no matter of the handlers**: it goes to the same place in a recorded
note. -/
lemma recordedEach_withReturnLink (note : Note) (s : Journal) :
    recordedEach note.withReturnLink s
      = ((note.recorded s).1.withReturnLink, (note.recorded s).2) := by
  obtain ⟨id, number, blocks⟩ := note
  rw [Note.recorded]
  by_cases h : ∀ head lines, blocks.getLast? = some (.para head lines) → lines.getLast? = none
  · have hrecorded : ∀ head lines, (recordedEach blocks s).1.getLast? = some (.para head lines) →
        lines.getLast? = none := fun head lines hl => h head lines (getLast?_recordedEach hl)
    rw [withReturnLink_of_no_line h, withReturnLink_of_no_line hrecorded, recordedEach_append,
      recordedEach_para]
  · push Not at h
    obtain ⟨head, lines, hlast, hlines⟩ := h
    obtain ⟨line, hline⟩ := Option.ne_none_iff_exists'.mp hlines
    obtain ⟨front, rfl⟩ : ∃ front, blocks = front ++ [.para head lines] :=
      ⟨blocks.dropLast, (List.dropLast_append_getLast? _ hlast).symm⟩
    rw [recordedEach_append, recordedEach_para, withReturnLink_of_line hline,
      withReturnLink_of_line hline, recordedEach_append, recordedEach_para]

/-! ### Rendering recorded blocks -/

section

variable {ctx : Context}

/-- A block and its recorded block come to the same. -/
def Matches (ctx : Context) (block : Block) : Prop :=
  ∀ s, ∃ outcome, Settles (renderBlock ctx (block.recorded s).1) outcome
    ∧ Follows (renderBlock ctx block) s outcome (block.recorded s).2

lemma matches_of_isLeaf {block : Block} (hleaf : block.isLeaf = true) :
    Matches ctx block := by
  intro s
  cases block with
  | plugin head lines handler =>
      have hgiving : (handler.giving (handler.render lines s).1).IsPure :=
        Handler.isPure_ofLines _ _
      refine ⟨_, hgiving.call_settles lines, ?_⟩
      exact ⟨rfl, fun _ _ => rfl⟩
  | quote head blocks => exact nomatch hleaf
  | list head kind blocks => exact nomatch hleaf
  | item head kind blocks spaced => exact nomatch hleaf
  | footnotes head notes => exact nomatch hleaf
  | _ =>
      obtain ⟨outcome, hsettles, -⟩ := leaf_settles ctx hleaf trivial
      exact ⟨outcome, hsettles, hsettles.follows s⟩

/-- Siblings that match one by one match together. -/
lemma siblings_match {blocks : List Block} (h : ∀ block ∈ blocks, Matches ctx block)
    (s : Journal) :
    ∃ outcomes, List.Forall₂ Settles ((recordedEach blocks s).1.map (renderBlock ctx)) outcomes
      ∧ FollowsEach (blocks.map (renderBlock ctx)) s outcomes (recordedEach blocks s).2 := by
  induction blocks generalizing s with
  | nil => exact ⟨[], .nil, .nil s⟩
  | cons block rest ih =>
      obtain ⟨x, hsettles, hfollows⟩ := h block List.mem_cons_self s
      obtain ⟨xs, hrest, hfollowsRest⟩ :=
        ih (fun b hb => h b (List.mem_cons_of_mem _ hb)) (block.recorded s).2
      rw [recordedEach]
      exact ⟨x :: xs, .cons hsettles hrest, .cons hfollows hfollowsRest⟩

lemma noteItem_match (horder : ctx.dispatch.InOrder) {note : Note}
    (h : ∀ child ∈ note.blocks, Matches ctx child) (s : Journal) :
    ∃ outcome,
      Settles (ctx.noteItem (note.recorded s).1
        ((note.recorded s).1.withReturnLink.map (renderBlock ctx))) outcome
      ∧ Follows (ctx.noteItem note (note.withReturnLink.map (renderBlock ctx))) s outcome
          (note.recorded s).2 := by
  have hlinked : ∀ child ∈ note.withReturnLink, Matches ctx child := by
    intro child hc
    rcases mem_withReturnLink hc with hc | rfl
    · exact h child hc
    · exact matches_of_isLeaf rfl
  obtain ⟨outcomes, hsettles, hfollows⟩ := siblings_match hlinked s
  rw [recordedEach_withReturnLink] at hsettles hfollows
  have hhead : (note.recorded s).1.itemHead = note.itemHead := by
    obtain ⟨id, number, blocks⟩ := note
    rfl
  refine ⟨_, ?_, (Context.container_follows horder note.itemHead (itemHtml false) hfollows).map _⟩
  rw [Context.noteItem, hhead]
  exact (ctx.container_settles _ _ hsettles).map _

/-- **A block comes to what its recorded block settles on.** -/
theorem renderBlock_follows (horder : ctx.dispatch.InOrder) (block : Block) : Matches ctx block := by
  -- After a fault no later handler of the block is called, but the recorded block has called them
  -- all: the journals agree on success only.
  induction block using Block.ind with
  | leaf block h => exact matches_of_isLeaf h
  | holds block head around blocks h ih =>
      intro s
      obtain ⟨outcomes, hsettles, hfollows⟩ := siblings_match ih s
      obtain ⟨hholds, hjournal⟩ := h.recorded s
      have hleft := (ctx.container_settles head around hsettles).map Rendered.part
      have hright := (Context.container_follows horder head around hfollows).map Rendered.part
      rw [← renderBlock_of_holds hholds] at hleft
      rw [← renderBlock_of_holds h, ← hjournal] at hright
      exact ⟨_, hleft, hright⟩
  | footnotes head notes ih =>
      intro s
      have hnotes : ∃ outcomes,
          List.Forall₂ Settles ((recordedNotes notes s).1.map fun note =>
            ctx.noteItem note (note.withReturnLink.map (renderBlock ctx))) outcomes
          ∧ FollowsEach (notes.map fun note =>
              ctx.noteItem note (note.withReturnLink.map (renderBlock ctx))) s outcomes
              (recordedNotes notes s).2
          ∧ (recordedNotes notes s).1.map Note.number = notes.map Note.number := by
        induction notes generalizing s with
        | nil => exact ⟨[], .nil, .nil s, rfl⟩
        | cons note rest ihnotes =>
            obtain ⟨x, hsettles, hfollows⟩ :=
              noteItem_match horder (ih note List.mem_cons_self) s
            obtain ⟨xs, hrest, hfollowsRest, hnumbers⟩ :=
              ihnotes (fun n hn => ih n (List.mem_cons_of_mem _ hn)) (note.recorded s).2
            have hnumber : (note.recorded s).1.number = note.number := by
              obtain ⟨id, number, blocks⟩ := note
              rfl
            rw [recordedNotes_cons]
            refine ⟨x :: xs, .cons hsettles hrest, .cons hfollows hfollowsRest, ?_⟩
            rw [List.map_cons, List.map_cons, hnumber, hnumbers]
      obtain ⟨outcomes, hsettles, hfollows, hnumbers⟩ := hnotes
      refine ⟨(ctx.listed (notes.map Note.number) outcomes).map Rendered.part, ?_, ?_⟩
      · rw [Block.recorded, renderBlock_footnotes, hnumbers]
        exact (ctx.footnotes_settles _ hsettles).map _
      · rw [Block.recorded, renderBlock_footnotes]
        exact (Context.footnotes_follows horder _ hfollows).map _

end

/-! ### Recorded documents -/

lemma mem_recordedEach {blocks : List Block} {s : Journal} {block : Block}
    (h : block ∈ (recordedEach blocks s).1) : ∃ original ∈ blocks, ∃ u,
      block = (original.recorded u).1 := by
  induction blocks generalizing s with
  | nil => exact absurd h List.not_mem_nil
  | cons first rest ih =>
      rw [recordedEach] at h
      rcases List.mem_cons.mp h with rfl | h
      · exact ⟨first, List.mem_cons_self, s, rfl⟩
      · obtain ⟨original, ho, u, rfl⟩ := ih h
        exact ⟨original, List.mem_cons_of_mem _ ho, u, rfl⟩

lemma mem_recordedNotes {notes : List Note} {s : Journal} {note : Note}
    (h : note ∈ (recordedNotes notes s).1) : ∃ original ∈ notes, ∃ u,
      note.blocks = (recordedEach original.blocks u).1 := by
  induction notes generalizing s with
  | nil => exact absurd h List.not_mem_nil
  | cons first rest ih =>
      obtain ⟨id, number, blocks⟩ := first
      rw [recordedNotes] at h
      rcases List.mem_cons.mp h with rfl | h
      · exact ⟨.mk id number blocks, List.mem_cons_self, s, rfl⟩
      · obtain ⟨original, ho, u, hu⟩ := ih h
        exact ⟨original, List.mem_cons_of_mem _ ho, u, hu⟩

lemma isLeaf_recorded {block : Block} (h : block.isLeaf = true) (s : Journal) :
    (block.recorded s).1.isLeaf = true := by
  cases block <;> simp_all [Block.isLeaf, Block.recorded]

lemma hasPureHandler_recorded (block : Block) (s : Journal) :
    (block.recorded s).1.HasPureHandler := by
  cases block with
  | plugin head lines handler => exact Handler.isPure_ofLines _ _
  | _ => rw [Block.recorded] <;> first | trivial | nofun

lemma forall_nodesOf_recordedEach {blocks : List Block}
    (h : ∀ child ∈ blocks, ∀ s, ∀ node ∈ (child.recorded s).1.nodes, node.HasPureHandler)
    (s : Journal) : ∀ node ∈ nodesOf (recordedEach blocks s).1, node.HasPureHandler := by
  intro node hn
  rw [nodesOf_eq_flatMap, List.mem_flatMap] at hn
  obtain ⟨child, hc, hn⟩ := hn
  obtain ⟨original, ho, u, rfl⟩ := mem_recordedEach hc
  exact h original ho u node hn

/-- **Recorded handlers are pure**, throughout the tree. -/
lemma forall_nodes_recorded (block : Block) (s : Journal) :
    ∀ node ∈ (block.recorded s).1.nodes, node.HasPureHandler := by
  induction block using Block.ind generalizing s with
  | leaf block h =>
      intro node hn
      rw [Block.nodes_of_isLeaf (isLeaf_recorded h s), List.mem_singleton] at hn
      rw [hn]
      exact hasPureHandler_recorded block s
  | holds block head around blocks h ih =>
      intro node hn
      rw [(h.recorded s).1.nodes_eq, List.mem_append, List.mem_singleton] at hn
      rcases hn with hn | rfl
      · exact forall_nodesOf_recordedEach (fun child hc u => ih child hc u) s node hn
      · exact hasPureHandler_recorded block s
  | footnotes head notes ih =>
      intro node hn
      rw [Block.recorded, Block.nodes_footnotes] at hn
      rcases List.mem_cons.mp hn with rfl | hn
      · trivial
      · obtain ⟨note, hnote, hn⟩ := List.mem_flatMap.mp hn
        obtain ⟨original, ho, u, hblocks⟩ := mem_recordedNotes hnote
        rw [hblocks] at hn
        exact forall_nodesOf_recordedEach (fun child hc u => ih original ho child hc u) u node hn

/-- The recorded document of a rendering has pure handlers only. -/
lemma hasPureHandler_of_recordedEach (blocks : List Block) (s : Journal) :
    ∀ node ∈ nodesOf (recordedEach blocks s).1, node.HasPureHandler :=
  forall_nodesOf_recordedEach (fun block _ => forall_nodes_recorded block) s

/-- **A rendering comes to what its recorded document comes to**, from any journal. -/
lemma renderBlocks_recorded {ctx : Context} (horder : ctx.dispatch.InOrder) (blocks : List Block)
    (s t : Journal) :
    (renderBlocks ctx blocks s).1 = (renderBlocks ctx (recordedEach blocks s).1 t).1 := by
  obtain ⟨outcomes, hrecorded, hfollows⟩ :=
    siblings_match (fun block _ => renderBlock_follows horder block) s
  rw [renderBlocks, renderBlocks, renderEach_eq_map, renderEach_eq_map,
    (Context.renderSiblings_follows horder hfollows).1, ctx.renderSiblings_settles hrecorded t]

/-- **Replies recorded in a document** lead to the same fault as the handlers that gave them. -/
theorem faultOf_renderBlocks_recorded {ctx : Context} (horder : ctx.dispatch.InOrder)
    (hread : ∀ note : Note, note.itemHead.fault? ctx.readAttributes = none) (blocks : List Block)
    (s : Journal) :
    faultOf (renderBlocks ctx blocks s).1
      = firstFault? ctx.readAttributes (recordedEach blocks s).1 := by
  obtain ⟨outcome, hsettles, hfault⟩ :=
    renderBlocks_settles horder hread (hasPureHandler_of_recordedEach blocks s)
  rw [renderBlocks_recorded horder blocks s s, hsettles s, hfault]

end BlockTree
