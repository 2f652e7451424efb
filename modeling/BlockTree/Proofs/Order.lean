import BlockTree.Handler.Samples
import BlockTree.Proofs.Leaf
import BlockTree.Render.Schedule

/-!
The order of evaluation does not show in what is rendered.

* `renderAt_const`: rendering under a schedule has the renderer in it, where one dispatch serves all
  lists.
* `SameOutcome`: two renderings that settle, and come to the same if they come to anything; if
  faults count, these are the same, too. It is passed on from the children to their container
  (`sameOutcome_container`, `sameOutcome_footnotes`), and so `renderAt_sameOutcome` holds of every
  tree.
* `renderBlocksAt_order`: the markup and the messages are those of the siblings in document order,
  each as often as it was evaluated, and under every exhaustive schedule those of the sequential
  strategy.
-/

namespace BlockTree

/-! ### Schedules -/

/-- Every sibling of every list exactly once, in any order. -/
def Schedule.Exhaustive (schedule : Schedule) : Prop :=
  ∀ path, (schedule path).Exhaustive

/-- **A schedule hides its order**: every sibling of every list is evaluated once, and if faults
count, no order shows in them. -/
def Schedule.Hides (schedule : Schedule) (faults : Prop) : Prop :=
  ∀ path, (schedule path).Exhaustive ∧ (faults → (schedule path).Steady)

lemma Schedule.Hides.below {schedule : Schedule} {faults : Prop} (h : schedule.Hides faults)
    (index : Nat) : (schedule.below index).Hides faults :=
  fun path => h (index :: path)

lemma Schedule.Exhaustive.hides {schedule : Schedule} (h : schedule.Exhaustive) :
    schedule.Hides False :=
  fun path => ⟨h path, False.elim⟩

lemma renderAt_of_isLeaf (ctx : Context) (schedule : Schedule) {block : Block}
    (h : block.isLeaf = true) : renderAt ctx schedule block = renderBlock ctx block := by
  cases block <;> simp_all [Block.isLeaf, renderAt]

lemma length_renderEachAt (ctx : Context) (schedule : Schedule) (index : Nat)
    (blocks : List Block) : (renderEachAt ctx schedule index blocks).length = blocks.length := by
  induction blocks generalizing index with
  | nil => rfl
  | cons block rest ih => rw [renderEachAt, List.length_cons, ih, List.length_cons]

lemma getElem_renderEachAt (ctx : Context) (schedule : Schedule) {index i : Nat}
    {blocks : List Block} (hi : i < blocks.length)
    (h : i < (renderEachAt ctx schedule index blocks).length) :
    (renderEachAt ctx schedule index blocks)[i]
      = renderAt ctx (schedule.below (index + i)) blocks[i] := by
  induction blocks generalizing index i with
  | nil => exact nomatch hi
  | cons block rest ih =>
      cases i with
      | zero => rfl
      | succ i =>
          simp only [renderEachAt, List.getElem_cons_succ]
          rw [ih (Nat.lt_of_succ_lt_succ hi), Nat.add_assoc, Nat.add_comm 1 i]

lemma renderAt_of_holds {block : Block} {head : Head} {around : Text → Text} {blocks : List Block}
    (h : block.Holds head around blocks) (ctx : Context) (schedule : Schedule) :
    renderAt ctx schedule block
      = Rendered.part
          <$> (ctx.at schedule).container head around (renderEachAt ctx schedule 0 blocks) := by
  cases h with
  | quote => rw [renderAt, Context.quote]
  | list => rw [renderAt, Context.list]
  | item => rw [renderAt, Context.item, length_renderEachAt]

/-! ### One dispatch for all lists -/

/-- A leaf has no siblings to dispatch. -/
lemma renderBlock_of_isLeaf (ctx : Context) (dispatch : Dispatch) {block : Block}
    (h : block.isLeaf = true) :
    renderBlock { ctx with dispatch } block = renderBlock ctx block := by
  cases block <;> first | rfl | exact nomatch h

lemma renderEachAt_const {ctx : Context} {dispatch : Dispatch} {blocks : List Block}
    (h : ∀ block ∈ blocks,
      renderAt ctx (fun _ => dispatch) block = renderBlock { ctx with dispatch } block)
    (index : Nat) :
    renderEachAt ctx (fun _ => dispatch) index blocks
      = blocks.map (renderBlock { ctx with dispatch }) := by
  induction blocks generalizing index with
  | nil => rfl
  | cons block rest ih =>
      have hrest := ih (fun b hb => h b (List.mem_cons_of_mem _ hb)) (index + 1)
      rw [List.map_cons, ← hrest, ← h block List.mem_cons_self]
      rfl

/-- Under one dispatch for all lists, a schedule renders what the renderer does. -/
lemma renderAt_const (ctx : Context) (dispatch : Dispatch) (block : Block) :
    renderAt ctx (fun _ => dispatch) block = renderBlock { ctx with dispatch } block := by
  induction block using Block.ind with
  | leaf block h => rw [renderAt_of_isLeaf ctx _ h, renderBlock_of_isLeaf ctx dispatch h]
  | holds block head around blocks h ih =>
      rw [renderAt_of_holds h, renderBlock_of_holds h, renderEachAt_const ih]
      rfl
  | footnotes head notes ih =>
      have hnotes : ∀ index, renderNotesAt ctx (fun _ => dispatch) index notes
          = renderNotes { ctx with dispatch } notes := by
        induction notes with
        | nil => exact fun _ => rfl
        | cons note rest ihnotes =>
            intro index
            obtain ⟨id, number, blocks⟩ := note
            have hblocks : renderEachAt ctx (fun _ => dispatch) 0 blocks
                = renderEach { ctx with dispatch } blocks := by
              rw [renderEach_eq_map]
              exact renderEachAt_const (ih (.mk id number blocks) List.mem_cons_self) 0
            have hrest := ihnotes (fun note hn => ih note (List.mem_cons_of_mem _ hn)) (index + 1)
            rw [renderNotes, ← hrest, ← hblocks]
            rfl
      rw [renderAt, renderBlock, hnotes]
      rfl

lemma renderBlocksAt_const (ctx : Context) (dispatch : Dispatch) (blocks : List Block) :
    renderBlocksAt ctx (fun _ => dispatch) blocks = renderBlocks { ctx with dispatch } blocks := by
  rw [renderBlocksAt, renderBlocks, renderEach_eq_map,
    renderEachAt_const fun block _ => renderAt_const ctx dispatch block]
  rfl

/-! ### The same outcome -/

variable {α β : Type} {faults : Prop}

/-- **Two renderings come to the same**: both settle, and one comes to a result if the other comes
to the same. Whether their faults are the same is asked for only if faults count. -/
def SameOutcome (faults : Prop) (first second : RenderM α) : Prop :=
  ∃ x y, Settles first x ∧ Settles second y ∧ (∀ a, x = .ok a ↔ y = .ok a) ∧ (faults → x = y)

lemma sameOutcome_of_settles {action : RenderM α} {x : Except Fault α} (h : Settles action x) :
    SameOutcome faults action action :=
  ⟨x, x, h, h, fun _ => Iff.rfl, fun _ => rfl⟩

lemma SameOutcome.map {first second : RenderM α} (h : SameOutcome faults first second)
    (f : α → β) : SameOutcome faults (f <$> first) (f <$> second) := by
  obtain ⟨x, y, hx, hy, hok, hfault⟩ := h
  refine ⟨x.map f, y.map f, hx.map f, hy.map f, fun b => ?_,
    fun hcount => congrArg (Except.map f) (hfault hcount)⟩
  rw [map_eq_ok_iff, map_eq_ok_iff]
  simp only [hok]

lemma SameOutcome.bind {first second : RenderM α} (h : SameOutcome faults first second)
    (next : α → Except Fault β) :
    SameOutcome faults (first >>= fun a => liftM (next a))
      (second >>= fun a => liftM (next a)) := by
  obtain ⟨x, y, hx, hy, hok, hfault⟩ := h
  refine ⟨x >>= next, y >>= next, hx.bind fun a => settles_liftM _,
    hy.bind fun a => settles_liftM _, fun b => ?_,
    fun hcount => congrArg (· >>= next) (hfault hcount)⟩
  rw [outcome_bind_eq_ok, outcome_bind_eq_ok]
  simp only [hok]

/-- Siblings that come to the same one by one have outcomes that do. -/
lemma exists_outcomes {first second : List (RenderM Part)}
    (h : List.Forall₂ (SameOutcome faults) first second) :
    ∃ xs ys, List.Forall₂ Settles first xs ∧ List.Forall₂ Settles second ys
      ∧ (∀ parts : List Part, xs = parts.map .ok ↔ ys = parts.map .ok) ∧ (faults → xs = ys) := by
  induction h with
  | nil => exact ⟨[], [], .nil, .nil, fun _ => Iff.rfl, fun _ => rfl⟩
  | cons hhead _ ih =>
      obtain ⟨x, y, hx, hy, hok, hfault⟩ := hhead
      obtain ⟨xs, ys, hxs, hys, hoks, hfaults⟩ := ih
      refine ⟨x :: xs, y :: ys, .cons hx hxs, .cons hy hys, fun parts => ?_,
        fun hcount => by rw [hfault hcount, hfaults hcount]⟩
      cases parts with
      | nil => simp
      | cons part parts => rw [List.map_cons, List.cons.injEq, List.cons.injEq, hok, hoks]

/-- **The order does not show in the siblings**: each evaluated once, in whatever order. -/
lemma sameOutcome_renderSiblings {one other : Context}
    (hone : one.dispatch.Exhaustive ∧ (faults → one.dispatch.Steady))
    (hother : other.dispatch.Exhaustive ∧ (faults → other.dispatch.Steady))
    {first second : List (RenderM Part)} (h : List.Forall₂ (SameOutcome faults) first second) :
    SameOutcome faults (one.renderSiblings first) (other.renderSiblings second) := by
  obtain ⟨xs, ys, hxs, hys, hoks, hfaults⟩ := exists_outcomes h
  refine ⟨_, _, one.renderSiblings_settles hxs, other.renderSiblings_settles hys,
    fun rendered => ?_, fun hcount => ?_⟩
  · rw [joined_eq_ok hone.1, joined_eq_ok hother.1]
    simp only [hoks]
  · rw [hfaults hcount, joined_of_steady (hone.2 hcount) (hother.2 hcount)]

section Containers

variable {ctx : Context} {one other : Schedule}

lemma sameOutcome_container (hone : one.Hides faults) (hother : other.Hides faults) (head : Head)
    (around : Text → Text) {first second : List (RenderM Part)}
    (h : List.Forall₂ (SameOutcome faults) first second) :
    SameOutcome faults ((ctx.at one).container head around first)
      ((ctx.at other).container head around second) :=
  (sameOutcome_renderSiblings (hone []) (hother []) h).bind (ctx.wrapped head around)

lemma sameOutcome_footnotes (hone : one.Hides faults) (hother : other.Hides faults)
    (numbers : List Int) {first second : List (RenderM Part)}
    (h : List.Forall₂ (SameOutcome faults) first second) :
    SameOutcome faults ((ctx.at one).footnotes numbers first)
      ((ctx.at other).footnotes numbers second) := by
  rw [Context.footnotes, Context.footnotes]
  split
  · exact (sameOutcome_container hone hother {} (listHtml .numbered) h).map _
  · exact sameOutcome_of_settles (settles_throw _)

lemma sameOutcome_note (hone : one.Hides faults) (hother : other.Hides faults) (note : Note)
    {first second : List (RenderM Part)} (h : List.Forall₂ (SameOutcome faults) first second) :
    SameOutcome faults ((ctx.at one).note note first) ((ctx.at other).note note second) := by
  have hlink : SameOutcome faults
      (Rendered.part <$> ctx.paragraph note.linked.head note.linked.lines)
      (Rendered.part <$> ctx.paragraph note.linked.head note.linked.lines) :=
    sameOutcome_of_settles ((settles_liftM _).map _)
  have hchildren := List.rel_append (List.forall₂_take note.linked.front.length h)
    (List.Forall₂.cons hlink .nil)
  rw [Context.note, Context.note, Context.item, Context.item, isTight, isTight, Bool.not_true,
    Bool.and_false, Bool.and_false]
  exact sameOutcome_container hone hother note.itemHead _ hchildren

end Containers

lemma forall₂_renderEachAt (ctx : Context) (one other : Schedule) {blocks : List Block}
    (h : ∀ block ∈ blocks, ∀ index,
      SameOutcome faults (renderAt ctx (one.below index) block)
        (renderAt ctx (other.below index) block))
    (index : Nat) :
    List.Forall₂ (SameOutcome faults) (renderEachAt ctx one index blocks)
      (renderEachAt ctx other index blocks) := by
  induction blocks generalizing index with
  | nil => exact .nil
  | cons block rest ih =>
      exact .cons (h block List.mem_cons_self index)
        (ih (fun b hb => h b (List.mem_cons_of_mem _ hb)) (index + 1))

/-- **The order does not show in a block**: under any two schedules that hide it, the block comes to
the same. -/
lemma renderAt_sameOutcome (ctx : Context) (block : Block)
    (hpure : ∀ node ∈ block.nodes, node.HasPureHandler) {one other : Schedule}
    (hone : one.Hides faults) (hother : other.Hides faults) :
    SameOutcome faults (renderAt ctx one block) (renderAt ctx other block) := by
  induction block using Block.ind generalizing one other with
  | leaf block h =>
      obtain ⟨x, hx, -⟩ := leaf_settles ctx h (hpure block (mem_nodes_self block))
      rw [renderAt_of_isLeaf ctx one h, renderAt_of_isLeaf ctx other h]
      exact sameOutcome_of_settles hx
  | holds block head around blocks h ih =>
      have hchildren := forall₂_renderEachAt ctx one other (fun child hc index =>
        ih child hc (h.forall_nodes hpure child hc) (hone.below index) (hother.below index)) 0
      rw [renderAt_of_holds h, renderAt_of_holds h]
      exact (sameOutcome_container hone hother head around hchildren).map _
  | footnotes head notes ih =>
      have hnodes := forall_nodes_of_note hpure
      -- The notes are counted on from any index, so that the rest of the list is a case again.
      have hnotes : ∀ index, List.Forall₂ (SameOutcome faults) (renderNotesAt ctx one index notes)
          (renderNotesAt ctx other index notes) := by
        clear hpure
        induction notes with
        | nil => exact fun _ => .nil
        | cons note rest ihnotes =>
            intro index
            obtain ⟨id, number, blocks⟩ := note
            have hblocks := forall₂_renderEachAt ctx (one.below index) (other.below index)
              (fun child hc i => ih (.mk id number blocks) List.mem_cons_self child hc
                (hnodes (.mk id number blocks) List.mem_cons_self child hc)
                ((hone.below index).below i) ((hother.below index).below i)) 0
            have hrest := ihnotes (fun note hn => ih note (List.mem_cons_of_mem _ hn))
              (fun note hn => hnodes note (List.mem_cons_of_mem _ hn)) (index + 1)
            exact .cons ((sameOutcome_note (hone.below index) (hother.below index)
              (.mk id number blocks) hblocks).map _) hrest
      rw [renderAt, renderAt]
      exact (sameOutcome_footnotes hone hother _ (hnotes 0)).map _

/-! ### Siblings under a schedule -/

/-- Under any two schedules that hide their order, siblings come to the same. -/
lemma renderBlocksAt_sameOutcome (ctx : Context) {blocks : List Block}
    (hpure : ∀ node ∈ nodesOf blocks, node.HasPureHandler) {one other : Schedule}
    (hone : one.Hides faults) (hother : other.Hides faults) :
    SameOutcome faults (renderBlocksAt ctx one blocks) (renderBlocksAt ctx other blocks) := by
  have hblocks := forall₂_renderEachAt ctx one other (fun block hb index =>
    renderAt_sameOutcome ctx block (fun node hn => hpure node (mem_nodesOf_of_mem hb hn))
      (hone.below index) (hother.below index)) 0
  exact sameOutcome_renderSiblings (hone []) (hother []) hblocks

/-- **A pool shows in nothing** that pure handlers come to: every schedule whose dispatches are
steady leads to the outcome of the sequential strategy, be it a fault or not, and leaves the journal
alone. -/
theorem renderBlocksAt_of_steady (ctx : Context) {blocks : List Block}
    (hpure : ∀ node ∈ nodesOf blocks, node.HasPureHandler) {schedule : Schedule}
    (hsteady : ∀ path, (schedule path).Steady) (journal : Journal) :
    renderBlocksAt ctx schedule blocks journal
      = renderBlocks { ctx with dispatch := .sequential } blocks journal := by
  have hschedule : schedule.Hides True := fun path =>
    ⟨(hsteady path).exhaustive, fun _ => hsteady path⟩
  have hsequential : Schedule.Hides (fun _ => .sequential) True := fun _ =>
    ⟨Dispatch.inOrder_sequential.exhaustive, fun _ => .inl Dispatch.inOrder_sequential⟩
  obtain ⟨x, y, hx, hy, -, hsame⟩ := renderBlocksAt_sameOutcome ctx hpure hschedule hsequential
  rw [← renderBlocksAt_const, hx, hy, hsame trivial]

/-- **Each sibling as often as it was evaluated**: parts that stand for one text per index join to
these texts in document order. -/
lemma join_repeated (order : List Nat) (n : Nat) (texts : Nat → Rendered) :
    Part.join (inDocumentOrder ((order.filter (· < n)).map fun i => (i, (texts i).part)))
      = .ok
        ⟨(List.range n).flatMap fun i => (List.replicate (order.count i) (texts i).html).flatten,
          (List.range n).flatMap fun i =>
            (List.replicate (order.count i) (texts i).messages).flatten⟩ := by
  have hlt : ∀ i ∈ order.filter (· < n), i < n := by
    intro i hi
    simpa using (List.mem_filter.mp hi).2
  have hparts : ((List.range n).flatMap fun i =>
        List.replicate ((order.filter (· < n)).count i) (texts i).part)
      = ((List.range n).flatMap fun i => List.replicate (order.count i) (texts i)).map
          Rendered.part := by
    rw [List.map_flatMap]
    refine List.flatMap_congr fun i hi => ?_
    rw [List.map_replicate, List.count_filter (by simpa using hi)]
  rw [inDocumentOrder_map hlt fun i => (texts i).part, hparts, Part.join, Part.joinFrom_map_part,
    List.flatMap_assoc, List.flatMap_assoc]
  simp only [List.flatMap_replicate]

/-- **Document order**: if the siblings that a schedule picks come to one text each, these texts are
joined in document order, each as often as it was picked. If it picks each sibling of every list
once, the result is that of the sequential strategy. One dispatch for all lists is the case that the
renderer itself is made of. -/
theorem renderBlocksAt_order (ctx : Context) (schedule : Schedule) (blocks : List Block) :
    (∀ texts : Nat → Rendered,
      (∀ i ∈ (schedule []).order blocks.length, ∀ hi : i < blocks.length, ∀ journal,
        (renderAt ctx (schedule.below i) blocks[i] journal).1 = .ok (texts i).part) →
      ∀ journal, (renderBlocksAt ctx schedule blocks journal).1 = .ok
        ⟨(List.range blocks.length).flatMap fun i =>
            (List.replicate (((schedule []).order blocks.length).count i) (texts i).html).flatten,
          (List.range blocks.length).flatMap fun i =>
            (List.replicate (((schedule []).order blocks.length).count i)
              (texts i).messages).flatten⟩)
    ∧ (schedule.Exhaustive → (∀ node ∈ nodesOf blocks, node.HasPureHandler) →
        ∀ journal rendered, (renderBlocksAt ctx schedule blocks journal).1 = .ok rendered
          ↔ (renderBlocks { ctx with dispatch := .sequential } blocks journal).1 = .ok rendered)
    ∧ ∀ dispatch,
        renderBlocksAt ctx (fun _ => dispatch) blocks = renderBlocks { ctx with dispatch } blocks := by
  refine ⟨fun texts htexts journal => ?_, fun hschedule hpure journal rendered => ?_,
    fun dispatch => renderBlocksAt_const ctx dispatch blocks⟩
  · have hlength := length_renderEachAt ctx schedule 0 blocks
    have heach : ∀ i ∈ (schedule []).order (renderEachAt ctx schedule 0 blocks).length,
        ∀ hi : i < (renderEachAt ctx schedule 0 blocks).length, ∀ s,
          ((renderEachAt ctx schedule 0 blocks)[i] s).1 = .ok (texts i).part := by
      intro i hi hlt s
      have hblock : i < blocks.length := hlength ▸ hlt
      rw [getElem_renderEachAt ctx schedule hblock hlt, Nat.zero_add]
      exact htexts i (hlength ▸ hi) hblock s
    have hrun := (schedule []).run_fst heach journal
    rw [hlength] at hrun
    rw [renderBlocksAt, (ctx.at schedule).renderSiblings_fst hrun,
      Dispatch.inDocumentOrder_asked, join_repeated]
  · have hsequential : Schedule.Exhaustive fun _ => Dispatch.sequential :=
      fun _ => Dispatch.inOrder_sequential.exhaustive
    obtain ⟨x, y, hx, hy, hok, -⟩ :=
      renderBlocksAt_sameOutcome ctx hpure hschedule.hides hsequential.hides
    rw [← renderBlocksAt_const, hx, hy]
    exact hok rendered

/-- Siblings evaluated twice each, and a tree evaluated backwards at every level. -/
theorem renderBlocksAt_order_twice_and_backwards :
    (renderBlocksAt { convert := .bracketed } (fun _ => .twice)
        [.para {} ["a"], .plugin {} ["b"] .echo] []).1
      = .ok ⟨"<p>[a]</p>\n<p>[a]</p>\n<pre>b</pre>\n<pre>b</pre>\n",
          [⟨.info, 1, "echo"⟩, ⟨.info, 1, "echo"⟩]⟩
    ∧ ∀ journal rendered,
        (renderBlocksAt {} (fun _ => .backwards)
            [.quote {} [.para {} ["a"], .plugin {} ["b"] .echo], .ruler {} .thin] journal).1
            = .ok rendered
          ↔ (renderBlocks { dispatch := .sequential }
              [.quote {} [.para {} ["a"], .plugin {} ["b"] .echo], .ruler {} .thin] journal).1
            = .ok rendered := by
  constructor
  · refine (renderBlocksAt_order { convert := .bracketed } (fun _ => .twice)
      [.para {} ["a"], .plugin {} ["b"] .echo]).1
      (fun i => if i = 0 then ⟨"<p>[a]</p>\n", []⟩ else ⟨"<pre>b</pre>\n", [⟨.info, 1, "echo"⟩]⟩)
      ?_ []
    intro i _ hi journal
    obtain rfl | rfl : i = 0 ∨ i = 1 := by
      simp only [List.length_cons, List.length_nil] at hi
      omega
    · rfl
    · rfl
  · refine (renderBlocksAt_order {} (fun _ => .backwards) _).2.1
      (fun _ => Dispatch.exhaustive_backwards) ?_
    have hecho : Handler.echo.IsPure := Handler.isPure_ofLines _ _
    simp [nodesOf, Block.nodes, Block.HasPureHandler, hecho]

end BlockTree
