import BlockTree.Proofs.Order
import BlockTree.Proofs.Recorded

/-!
What siblings are rendered to in document order: the concatenation of their texts.

* `Evaluates.append` and `Evaluates.of_append`: actions one after another are evaluated together if
  and only if the first of them are, and the others from there.
* `Context.renderSiblings_eq_ok`: siblings succeed exactly if each of them succeeds with a text, one
  after another; the result is the `concatenation` of these texts.
* `renderBlocks_concat`: so a last block whose outcome does not depend on anything adds its own
  text.
* `renderBlocks_eq_ok_sequential`: under other exhaustive dispatches, pure handlers make for the
  same results.
-/

namespace BlockTree

/-! ### Evaluations one after another -/

section

variable {ε σ α : Type}

lemma Evaluates.append {front back : List (Action ε σ α)} {s t u : σ} {first others : List α}
    (hfront : Evaluates front s first t) (hback : Evaluates back t others u) :
    Evaluates (front ++ back) s (first ++ others) u := by
  induction hfront with
  | nil => exact hback
  | cons ha _ ih => exact .cons ha (ih hback)

lemma Evaluates.of_append {front back : List (Action ε σ α)} {s u : σ} {results : List α}
    (h : Evaluates (front ++ back) s results u) :
    ∃ first others t, results = first ++ others ∧ Evaluates front s first t
      ∧ Evaluates back t others u := by
  induction front generalizing s results with
  | nil => exact ⟨[], results, s, rfl, .nil s, h⟩
  | cons action front ih =>
      cases h with
      | cons ha hrest =>
          obtain ⟨first, others, t, rfl, hfront, hback⟩ := ih hrest
          exact ⟨_ :: first, others, t, rfl, .cons ha hfront, hback⟩

/-- An evaluation of a single action. -/
lemma evaluates_singleton {action : Action ε σ α} {s t : σ} {results : List α} :
    Evaluates [action] s results t ↔ ∃ a, results = [a] ∧ action s = (.ok a, t) := by
  constructor
  · intro h
    cases h with
    | cons ha hrest =>
        cases hrest
        exact ⟨_, rfl, ha⟩
  · rintro ⟨a, rfl, ha⟩
    exact .cons ha (.nil t)

lemma Evaluates.followsEach {actions : List (Action ε σ α)} {s t : σ} {results : List α}
    (h : Evaluates actions s results t) : FollowsEach actions s (results.map .ok) t := by
  induction h with
  | nil => exact .nil _
  | cons ha _ ih =>
      refine .cons ⟨?_, fun _ _ => ?_⟩ ih
      · rw [ha]
      · rw [ha]

end

/-! ### Concatenations -/

/-- **The concatenation** of rendered texts: their markup and their messages one after another. -/
def concatenation (texts : List Rendered) : Rendered :=
  ⟨texts.flatMap Rendered.html, texts.flatMap Rendered.messages⟩

lemma Rendered.part_injective : Function.Injective Rendered.part := by
  rintro ⟨html, messages⟩ ⟨html', messages'⟩ h
  cases h
  rfl

lemma concatenation_append (front back : List Rendered) :
    concatenation (front ++ back)
      = ⟨(concatenation front).html ++ (concatenation back).html,
          (concatenation front).messages ++ (concatenation back).messages⟩ := by
  simp only [concatenation, List.flatMap_append]

/-- Parts join to a text exactly if they are texts. -/
lemma Part.joinFrom_eq_ok {index : Nat} {parts : List Part} {rendered : Rendered} :
    joinFrom index parts = .ok rendered
      ↔ ∃ texts : List Rendered, parts = texts.map Rendered.part
        ∧ rendered = concatenation texts := by
  constructor
  · intro h
    induction parts generalizing index rendered with
    | nil => exact ⟨[], rfl, (Except.ok.inj h).symm⟩
    | cons part rest ih =>
        obtain ⟨html | typeName, messages⟩ := part
        · obtain ⟨others, ho, rfl⟩ := map_eq_ok_iff.mp h
          obtain ⟨texts, rfl, rfl⟩ := ih ho
          exact ⟨⟨html, messages⟩ :: texts, rfl, rfl⟩
        · exact nomatch h
  · rintro ⟨texts, rfl, rfl⟩
    exact joinFrom_map_part index texts

/-- **Siblings in document order** succeed exactly if each of them succeeds with a text, one after
another. -/
lemma Context.renderSiblings_eq_ok {ctx : Context} (horder : ctx.dispatch.InOrder)
    {siblings : List (RenderM Part)} {s t : Journal} {rendered : Rendered} :
    ctx.renderSiblings siblings s = (.ok rendered, t)
      ↔ ∃ texts : List Rendered, Evaluates siblings s (texts.map Rendered.part) t
        ∧ rendered = concatenation texts := by
  constructor
  · intro h
    obtain ⟨parts, heval, hjoin⟩ := ctx.renderSiblings_ok horder h
    obtain ⟨texts, rfl, hrendered⟩ := Part.joinFrom_eq_ok.mp hjoin
    exact ⟨texts, heval, hrendered⟩
  · rintro ⟨texts, heval, rfl⟩
    obtain ⟨hresult, hstate⟩ := Context.renderSiblings_follows horder heval.followsEach
    have hjoined : joined ctx.dispatch ((texts.map Rendered.part).map .ok)
        = .ok (concatenation texts) :=
      (joined_eq_ok horder.exhaustive).mpr ⟨_, rfl, Part.joinFrom_map_part 0 texts⟩
    exact Prod.ext (hresult.trans hjoined) (hstate _ hjoined)

/-! ### Blocks -/

lemma renderBlocks_eq_ok {ctx : Context} (horder : ctx.dispatch.InOrder) {blocks : List Block}
    {s t : Journal} {rendered : Rendered} :
    renderBlocks ctx blocks s = (.ok rendered, t)
      ↔ ∃ texts : List Rendered, Evaluates (blocks.map (renderBlock ctx)) s
          (texts.map Rendered.part) t ∧ rendered = concatenation texts := by
  rw [renderBlocks, renderEach_eq_map]
  exact Context.renderSiblings_eq_ok horder

/-- **A last block** that settles adds its own text to that of the blocks in front of it. -/
lemma renderBlocks_concat {ctx : Context} (horder : ctx.dispatch.InOrder) {front : List Block}
    {last : Block} {x : Except Fault Rendered}
    (hlast : Settles (renderBlock ctx last) (x.map Rendered.part)) {s t : Journal}
    {rendered : Rendered} :
    renderBlocks ctx (front ++ [last]) s = (.ok rendered, t)
      ↔ ∃ own added, renderBlocks ctx front s = (.ok own, t) ∧ x = .ok added
        ∧ rendered = ⟨own.html ++ added.html, own.messages ++ added.messages⟩ := by
  have hadded : ∀ added, concatenation [added] = added := fun added => by
    simp [concatenation]
  simp only [renderBlocks_eq_ok horder, List.map_append, List.map_cons, List.map_nil]
  constructor
  · rintro ⟨texts, heval, rfl⟩
    obtain ⟨first, others, u, htexts, hfront, hback⟩ := heval.of_append
    obtain ⟨part, rfl, hpart⟩ := evaluates_singleton.mp hback
    rw [hlast u, Action.end_inj] at hpart
    obtain ⟨hx, rfl⟩ := hpart
    obtain ⟨added, hadd, rfl⟩ := map_eq_ok_iff.mp hx
    obtain ⟨before, after, rfl, hbefore, hafter⟩ := List.map_eq_append_iff.mp htexts
    obtain rfl : after = [added] := Rendered.part_injective.list_map hafter
    refine ⟨concatenation before, added, ⟨before, ?_, rfl⟩, hadd, ?_⟩
    · rw [hbefore]
      exact hfront
    · rw [concatenation_append, hadded]
  · rintro ⟨own, added, ⟨texts, heval, rfl⟩, rfl, rfl⟩
    refine ⟨texts ++ [added], ?_, ?_⟩
    · rw [List.map_append]
      exact heval.append (evaluates_singleton.mpr ⟨added.part, rfl, hlast t⟩)
    · rw [concatenation_append, hadded]

/-- **Every exhaustive dispatch** renders blocks with pure handlers as the sequential one does. -/
lemma renderBlocks_eq_ok_sequential {ctx : Context} (hdispatch : ctx.dispatch.Exhaustive)
    {blocks : List Block} (hpure : ∀ node ∈ nodesOf blocks, node.HasPureHandler) {s t : Journal}
    {rendered : Rendered} :
    renderBlocks ctx blocks s = (.ok rendered, t)
      ↔ renderBlocks { ctx with dispatch := .sequential } blocks s = (.ok rendered, t) := by
  have hown : Schedule.Exhaustive fun _ => ctx.dispatch := fun _ => hdispatch
  have hsequential : Schedule.Exhaustive fun _ => Dispatch.sequential :=
    fun _ => Dispatch.inOrder_sequential.exhaustive
  obtain ⟨x, y, hx, hy, hok, -⟩ :=
    renderBlocksAt_sameOutcome ctx hpure hown.hides hsequential.hides
  rw [renderBlocksAt_const] at hx hy
  have hleft : renderBlocks ctx blocks s = (x, s) := hx s
  rw [hleft, hy s, Action.end_inj, Action.end_inj, hok]

end BlockTree
