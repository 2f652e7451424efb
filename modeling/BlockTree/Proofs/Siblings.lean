import BlockTree.Proofs.Dispatch
import BlockTree.Render.Block

/-!
Siblings: how their outcomes are joined, and what goes wrong on the way.

* `Context.renderSiblings_settles`, `Context.container_settles` and `Context.footnotes_settles`:
  settled children settle their container on an outcome that is written down (`joined`,
  `Context.wrapped`, `Context.listed`).
* `joined_eq_ok`: under every exhaustive dispatch, siblings succeed together and give their parts in
  document order; `joined_of_steady` says which dispatches agree on the faults, too.
* `faultOf_joined`: in document order, the first fault among the siblings ends them, and after the
  last of them the first part that is no text.
* `Context.renderSiblings_ok` and `Context.renderSiblings_error`: what is known of siblings that take
  notes in the journal.
-/

namespace BlockTree

/-! ### Joining parts -/

namespace Part

/-- The type of a part whose markup is no text. -/
def foreignType? (part : Part) : Option Text :=
  match part.fragment with
  | .text _ => none
  | .foreign typeName => some typeName

/-- Parts that are texts join to the concatenation of their markup and messages. -/
lemma joinFrom_map_part (index : Nat) (texts : List Rendered) :
    joinFrom index (texts.map Rendered.part)
      = .ok ⟨texts.flatMap Rendered.html, texts.flatMap Rendered.messages⟩ := by
  induction texts generalizing index with
  | nil => rfl
  | cons text rest ih =>
      rw [List.map_cons, Rendered.part, joinFrom, ih]
      rfl

lemma messages_of_joinFrom {index : Nat} {parts : List Part} {rendered : Rendered}
    (h : joinFrom index parts = .ok rendered) : rendered.messages = parts.flatMap Part.messages := by
  induction parts generalizing index rendered with
  | nil =>
      obtain rfl : ⟨[], []⟩ = rendered := Except.ok.inj h
      rfl
  | cons part rest ih =>
      obtain ⟨html | typeName, messages⟩ := part
      · obtain ⟨others, ho, rfl⟩ := map_eq_ok_iff.mp h
        rw [List.flatMap_cons, ih ho]
      · exact nomatch h

/-- Joining fails at the first part that is no text. -/
lemma faultOf_joinFrom (index : Nat) (parts : List Part) :
    faultOf (joinFrom index parts)
      = (parts.zipIdx index).findSome? fun entry =>
          entry.1.foreignType?.map fun typeName => .other (unjoinable entry.2 typeName) := by
  induction parts generalizing index with
  | nil => rfl
  | cons part rest ih =>
      obtain ⟨html | typeName, messages⟩ := part
      · rw [joinFrom, faultOf_map, ih, List.zipIdx_cons, List.findSome?_cons]
        rfl
      · rfl

end Part

/-- The fault of joining siblings of which some give markup of another type. -/
def joinFault? (types : List (Option Text)) : Option Fault :=
  types.zipIdx.findSome? fun entry =>
    entry.1.map fun typeName => .other (Part.unjoinable entry.2 typeName)

lemma faultOf_join (parts : List Part) :
    faultOf (Part.join parts) = joinFault? (parts.map Part.foreignType?) := by
  rw [Part.join, Part.faultOf_joinFrom, joinFault?, List.zipIdx_map, List.findSome?_map]
  rfl

/-- Texts can be joined. -/
lemma joinFault?_eq_none {types : List (Option Text)} (h : ∀ type ∈ types, type = none) :
    joinFault? types = none := by
  rw [joinFault?, List.findSome?_eq_none_iff]
  rintro ⟨type, index⟩ hentry
  rw [h type (List.fst_mem_of_mem_zipIdx hentry)]
  rfl

lemma Part.exists_foreign_of_join {parts : List Part} {fault : Fault}
    (h : faultOf (Part.join parts) = some fault) :
    ∃ part ∈ parts, part.foreignType? ≠ none := by
  by_contra hnone
  push Not at hnone
  have htypes : ∀ type ∈ parts.map foreignType?, type = none := by
    intro type htype
    obtain ⟨part, hpart, rfl⟩ := List.mem_map.mp htype
    exact hnone part hpart
  rw [faultOf_join, joinFault?_eq_none htypes] at h
  exact nomatch h

/-! ### Outcomes of siblings -/

/-- The outcome of siblings with these outcomes. -/
def joined (dispatch : Dispatch) (outcomes : List (Except Fault Part)) : Except Fault Rendered :=
  collect (dispatch.asked (dispatch.pick outcomes)) >>= fun results =>
    Part.join (inDocumentOrder results)

lemma Context.renderSiblings_settles (ctx : Context) {siblings : List (RenderM Part)}
    {outcomes : List (Except Fault Part)} (h : List.Forall₂ Settles siblings outcomes) :
    Settles (ctx.renderSiblings siblings) (joined ctx.dispatch outcomes) :=
  (ctx.dispatch.run_settles h).bind fun _ => settles_liftM _

lemma Context.renderSiblings_fst (ctx : Context) {siblings : List (RenderM Part)} {s : Journal}
    {results : List (Nat × Part)} (h : (ctx.dispatch.run siblings s).1 = .ok results) :
    (ctx.renderSiblings siblings s).1 = Part.join (inDocumentOrder results) := by
  rw [renderSiblings, Action.bind_apply]
  rcases hrun : ctx.dispatch.run siblings s with ⟨x, t⟩
  rw [hrun] at h
  obtain rfl : x = .ok results := h
  rfl

/-- **The order does not show**: siblings succeed if each of them does, and then their parts are
joined in document order. -/
lemma joined_eq_ok {dispatch : Dispatch} (h : dispatch.Exhaustive)
    {outcomes : List (Except Fault Part)} {rendered : Rendered} :
    joined dispatch outcomes = .ok rendered
      ↔ ∃ parts, outcomes = parts.map .ok ∧ Part.join parts = .ok rendered := by
  rw [joined, outcome_bind_eq_ok]
  constructor
  · rintro ⟨results, hc, hj⟩
    exact ⟨inDocumentOrder results,
      (dispatch.collect_asked_pick_eq_ok h).mp ⟨results, hc, rfl⟩, hj⟩
  · rintro ⟨parts, hp, hj⟩
    obtain ⟨results, hc, rfl⟩ := (dispatch.collect_asked_pick_eq_ok h).mpr hp
    exact ⟨results, hc, hj⟩

/-- **Steady dispatches** come to the same outcome, be it a fault or not. -/
lemma joined_of_steady {one other : Dispatch} (hone : one.Steady) (hother : other.Steady)
    (outcomes : List (Except Fault Part)) : joined one outcomes = joined other outcomes := by
  rw [joined, joined, one.asked_pick hone, other.asked_pick hother]

/-! ### Faults of siblings -/

/-- What an outcome comes to: its fault, and the type of its markup if that is no text. -/
def ComesTo (fault? : Option Fault) (type? : Option Text) (outcome : Except Fault Part) : Prop :=
  faultOf outcome = fault? ∧ ∀ part, outcome = .ok part → part.foreignType? = type?

/-- **An action settles** on an outcome with this fault, or on markup of this type. -/
def SettlesAs (fault? : Option Fault) (type? : Option Text) (action : RenderM Part) : Prop :=
  ∃ outcome, Settles action outcome ∧ ComesTo fault? type? outcome

/-- Rendered markup is a text. -/
lemma comesTo_part {x : Except Fault Rendered} {fault? : Option Fault} (h : faultOf x = fault?) :
    ComesTo fault? none (x.map Rendered.part) := by
  refine ⟨(faultOf_map _ x).trans h, fun part hpart => ?_⟩
  obtain ⟨rendered, -, rfl⟩ := map_eq_ok_iff.mp hpart
  rfl

lemma Settles.settlesAs {action : RenderM Rendered} {x : Except Fault Rendered}
    {fault? : Option Fault} (h : Settles action x) (hx : faultOf x = fault?) :
    SettlesAs fault? none (Rendered.part <$> action) :=
  ⟨_, h.map _, comesTo_part hx⟩

section Faults

variable {ι : Type} {items : List ι} {fault? : ι → Option Fault} {type? : ι → Option Text}

/-- Siblings that succeed give parts of the types that are known of them. -/
lemma map_foreignType?_of_comesTo {parts : List Part}
    (h : List.Forall₂ (fun item => ComesTo (fault? item) (type? item)) items (parts.map .ok)) :
    parts.map Part.foreignType? = items.map type? := by
  rw [List.forall₂_map_right_iff] at h
  induction h with
  | nil => rfl
  | cons hitem _ ih => rw [List.map_cons, List.map_cons, ih, hitem.2 _ rfl]

/-- In document order the first fault of a sibling counts, and after all of them the first part that
is no text. -/
lemma faultOf_joined {dispatch : Dispatch} (h : dispatch.InOrder)
    {outcomes : List (Except Fault Part)}
    (hitems : List.Forall₂ (fun item => ComesTo (fault? item) (type? item)) items outcomes) :
    faultOf (joined dispatch outcomes)
      = (items.findSome? fault?).or (joinFault? (items.map type?)) := by
  have hfaults : outcomes.findSome? faultOf = items.findSome? fault? := by
    induction hitems with
    | nil => rfl
    | cons hxy _ ih => rw [List.findSome?_cons, List.findSome?_cons, hxy.1, ih]
  have hcollect : faultOf (collect (dispatch.asked (dispatch.pick outcomes)))
      = outcomes.findSome? faultOf := by
    rw [dispatch.asked_pick (.inl h), ← dispatch.pick_inOrder h, faultOf_collect,
      ← Function.comp_def faultOf, ← List.findSome?_map, dispatch.map_snd_pick h]
  cases hc : collect (dispatch.asked (dispatch.pick outcomes)) with
  | error fault =>
      rw [hc, faultOf_error, hfaults] at hcollect
      rw [joined, hc, ← hcollect]
      rfl
  | ok results =>
      rw [hc, faultOf_ok, hfaults] at hcollect
      have hparts := (dispatch.collect_asked_pick_eq_ok h.exhaustive).mp ⟨results, hc, rfl⟩
      have htypes : (inDocumentOrder results).map Part.foreignType? = items.map type? := by
        rw [hparts] at hitems
        exact map_foreignType?_of_comesTo hitems
      rw [joined, hc, ← hcollect, Option.none_or, ← htypes, ← faultOf_join]
      rfl

end Faults

/-! ### Containers -/

/-- The fault of an attribute list: a written one may have illegal words in it. -/
def Head.fault? (reader : Attributes.Reader) (head : Head) : Option Fault :=
  match head.attributes with
  | .written raw =>
    if (reader raw).complaints.isEmpty then none
    else some (.render (.illegalAttributes ⟨raw, (reader raw).complaints⟩))
  | _ => none

lemma faultOf_decorate (ctx : Context) (head : Head) (defaults : Attributes) (html : Text) :
    faultOf (ctx.decorate head defaults html) = head.fault? ctx.readAttributes := by
  obtain ⟨attributes, line⟩ := head
  cases attributes with
  | absent => rfl
  | listed attributes => rfl
  | written raw =>
      by_cases h : (ctx.readAttributes raw).complaints.isEmpty = true
      · simp only [Context.decorate, Attributes.decorate, Attributes.Spec.resolveWith,
          Attributes.Spec.resolve, Attributes.readStrict, Head.fault?, if_pos h]
        rfl
      · simp only [Context.decorate, Attributes.decorate, Attributes.Spec.resolveWith,
          Attributes.Spec.resolve, Attributes.readStrict, Head.fault?, if_neg h]
        rfl

namespace Context

variable (ctx : Context)

/-- Markup around rendered content, or the fault of its attributes. -/
def wrapped (head : Head) (around : Text → Text) (content : Rendered) : Except Fault Rendered :=
  (ctx.decorate head [] (around content.html)).map fun decorated => ⟨decorated, content.messages⟩

lemma faultOf_wrapped (head : Head) (around : Text → Text) (content : Rendered) :
    faultOf (ctx.wrapped head around content) = head.fault? ctx.readAttributes := by
  rw [wrapped, faultOf_map, faultOf_decorate]

lemma messages_of_wrapped {head : Head} {around : Text → Text} {content rendered : Rendered}
    (h : ctx.wrapped head around content = .ok rendered) :
    rendered.messages = content.messages := by
  obtain ⟨decorated, -, rfl⟩ := map_eq_ok_iff.mp h
  rfl

/-- A container puts its markup around the children that have been rendered. -/
lemma container_of_siblings {ctx : Context} {head : Head} {around : Text → Text}
    {children : List (RenderM Part)} {s t : Journal} {content : Rendered} (h : ctx.renderSiblings children s = (.ok content, t)) :
    ctx.container head around children s = (ctx.wrapped head around content, t) := by
  rw [container, Action.bind_apply, h]
  rfl

lemma container_settles (head : Head) (around : Text → Text) {children : List (RenderM Part)}
    {outcomes : List (Except Fault Part)} (h : List.Forall₂ Settles children outcomes) :
    Settles (ctx.container head around children)
      (joined ctx.dispatch outcomes >>= ctx.wrapped head around) :=
  (ctx.renderSiblings_settles h).bind fun _ => settles_liftM _

/-- The outcome of a footnote list whose items have these outcomes. -/
def listed (numbers : List Int) (outcomes : List (Except Fault Part)) : Except Fault Rendered :=
  if numbers.all Text.isWritable then
    (joined ctx.dispatch outcomes >>= ctx.wrapped {} (listHtml .numbered)).map fun list =>
      ⟨footnotesHtml list.html, list.messages⟩
  else .error (.other (.badValue Text.tooLongToWrite))

lemma footnotes_settles (numbers : List Int) {items : List (RenderM Part)}
    {outcomes : List (Except Fault Part)} (h : List.Forall₂ Settles items outcomes) :
    Settles (ctx.footnotes numbers items) (ctx.listed numbers outcomes) := by
  rw [footnotes, listed]
  split
  · exact (ctx.container_settles {} (listHtml .numbered) h).map _
  · exact settles_throw _

/-! ### Siblings that take notes -/

/-- In document order, siblings that succeed have done so one after another. -/
lemma renderSiblings_ok (hctx : ctx.dispatch.InOrder) {siblings : List (RenderM Part)}
    {s t : Journal} {rendered : Rendered}
    (h : ctx.renderSiblings siblings s = (.ok rendered, t)) :
    ∃ parts, Evaluates siblings s parts t ∧ Part.join parts = .ok rendered := by
  obtain ⟨results, u, hrun, h⟩ := Action.bind_eq_ok.mp h
  rw [Action.liftM_apply, Action.end_inj] at h
  obtain ⟨hjoin, rfl⟩ := h
  exact ⟨inDocumentOrder results, ctx.dispatch.run_ok_of_inOrder hctx hrun, hjoin⟩

/-- In document order, a container that succeeds has the messages of its children. -/
lemma container_ok (hctx : ctx.dispatch.InOrder) {head : Head} {around : Text → Text}
    {children : List (RenderM Part)} {s t : Journal} {rendered : Rendered}
    (h : ctx.container head around children s = (.ok rendered, t)) :
    ∃ parts, Evaluates children s parts t
      ∧ rendered.messages = parts.flatMap Part.messages := by
  obtain ⟨content, u, hchildren, h⟩ := Action.bind_eq_ok.mp h
  have hwrap : (ctx.wrapped head around content, u) = (.ok rendered, t) := h
  obtain ⟨hwrapped, rfl⟩ := Prod.mk_inj.mp hwrap
  obtain ⟨parts, heval, hjoin⟩ := ctx.renderSiblings_ok hctx hchildren
  exact ⟨parts, heval, (ctx.messages_of_wrapped hwrapped).trans (Part.messages_of_joinFrom hjoin)⟩

/-- A fault of siblings is the fault of one of them, or one of them gives no text. -/
lemma renderSiblings_error {siblings : List (RenderM Part)} {s t : Journal} {fault : Fault}
    (h : ctx.renderSiblings siblings s = (.error fault, t)) :
    (∃ sibling ∈ siblings, ∃ u v, sibling u = (.error fault, v))
      ∨ ∃ sibling ∈ siblings, ∃ u v part, sibling u = (.ok part, v) ∧ part.foreignType? ≠ none := by
  rcases Action.bind_eq_error.mp h with hrun | ⟨results, u, hrun, h⟩
  · exact Or.inl (ctx.dispatch.run_error hrun)
  · rw [Action.liftM_apply, Action.end_inj] at h
    have hjoin : faultOf (Part.join (inDocumentOrder results)) = some fault := by
      rw [h.1, faultOf_error]
    obtain ⟨part, hpart, htype⟩ := Part.exists_foreign_of_join hjoin
    obtain ⟨sibling, hs, u, v, huv⟩ := ctx.dispatch.exists_of_mem_results hrun hpart
    exact Or.inr ⟨sibling, hs, u, v, part, huv, htype⟩

end Context

end BlockTree
