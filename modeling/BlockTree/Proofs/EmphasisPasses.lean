import BlockTree.Proofs.InlineTags

/-!
What the passes over running text leave behind.

* `Emphasised`: inert characters with whole tags of emphasis between them.
* `Emphasised.split_mark`: such a text can be cut at the marks of a delimiter, as no tag of emphasis
  holds a character of a mark.
* `Pass.Wraps`: how a pass goes through such a text, over characters, whole tags and runs; it never
  matches inside a tag that an earlier pass has put in, and keeps the text emphasised.
* `emphasised_formatText`: so running text becomes an emphasised text, and with it a composed one.
-/

namespace BlockTree.Inline

open Entity (isInert)

/-! ### Emphasised texts -/

/-- The tags of emphasis. -/
def emphasisTags : List Tag :=
  [.opens .strong, .closes .strong, .opens .struck, .closes .struck, .opens .emphasis,
    .closes .emphasis]

lemma opens_mem_emphasisTags (kind : EmphasisKind) : .opens kind ∈ emphasisTags := by
  cases kind <;> decide

lemma closes_mem_emphasisTags (kind : EmphasisKind) : .closes kind ∈ emphasisTags := by
  cases kind <;> decide

/-- **An emphasised text**: inert characters and whole tags of emphasis. -/
inductive Emphasised : Text → Prop where
  | nil : Emphasised []
  | char {c : Char} {rest : Text} : isInert c = true → Emphasised rest → Emphasised (c :: rest)
  | tag {tag : Tag} {rest : Text} : tag ∈ emphasisTags → Emphasised rest →
      Emphasised (tag.source ++ rest)

lemma emphasised_of_inert {text : Text} (h : ∀ c ∈ text, isInert c = true) : Emphasised text := by
  induction text with
  | nil => exact .nil
  | cons c rest ih =>
      rw [List.forall_mem_cons] at h
      exact .char h.1 (ih h.2)

lemma Emphasised.append {front back : Text} (hfront : Emphasised front) (hback : Emphasised back) :
    Emphasised (front ++ back) := by
  induction hfront with
  | nil => exact hback
  | char hc _ ih => exact .char hc ih
  | tag htag _ ih =>
      rw [List.append_assoc]
      exact .tag htag ih

lemma isInert_of_mem_emphasisTags : ∀ tag ∈ emphasisTags, tag.IsInert := by
  have hvalues : ∀ tag ∈ emphasisTags, tag.values = [] := by decide
  intro tag htag
  rw [Tag.IsInert, hvalues tag htag]
  exact nofun

/-- Emphasised texts are composed, whatever lines there are. -/
lemma Emphasised.composed {lines : List Text} {text : Text} (h : Emphasised text) :
    Composed lines text := by
  induction h with
  | nil => exact composed_nil
  | @char c rest hc _ ih =>
      have hfirst : Composed lines [c] := composed_text (List.forall_mem_singleton.mpr hc)
      exact hfirst.append ih
  | tag htag _ ih => exact (composed_tag (isInert_of_mem_emphasisTags _ htag)).append ih

/-- The first character of an emphasised text is inert, or begins a tag of emphasis. -/
lemma Emphasised.of_cons {c : Char} {rest : Text} (h : Emphasised (c :: rest)) :
    (isInert c = true ∧ Emphasised rest)
      ∨ ∃ tag ∈ emphasisTags, ∃ part more, tag.source = c :: part ∧ rest = part ++ more
        ∧ Emphasised more := by
  generalize htext : c :: rest = text at h
  cases h with
  | nil => cases htext
  | char hd hrest =>
      obtain ⟨rfl, rfl⟩ := List.cons.inj htext
      exact Or.inl ⟨hd, hrest⟩
  | @tag tag more htag hmore =>
      have hsource : tag.source = '<' :: (tag.inside ++ ['>']) := rfl
      rw [hsource, List.cons_append] at htext
      obtain ⟨rfl, rfl⟩ := List.cons.inj htext
      exact Or.inr ⟨tag, htag, _, more, hsource, rfl, hmore⟩

/-! ### Marks -/

/-- The characters that marks of emphasis consist of. -/
def isMarkChar (c : Char) : Bool :=
  c = '*' || c = '_' || c = '~'

lemma not_isMarkChar_of_mem_emphasisTags :
    ∀ tag ∈ emphasisTags, ∀ c ∈ tag.source, isMarkChar c = false := by
  decide +kernel

lemma Emphasised.split {front rest : Text} {c : Char} (hc : isMarkChar c = true)
    (h : Emphasised (front ++ c :: rest)) : Emphasised front ∧ Emphasised rest := by
  generalize htext : front ++ c :: rest = text at h
  induction h generalizing front with
  | nil => exact absurd htext (List.append_ne_nil_of_right_ne_nil _ (List.cons_ne_nil _ _))
  | @char d text hd hrest ih =>
      cases front with
      | nil =>
          obtain ⟨rfl, rfl⟩ := List.cons.inj htext
          exact ⟨.nil, hrest⟩
      | cons e front =>
          rw [List.cons_append, List.cons.injEq] at htext
          obtain ⟨rfl, htail⟩ := htext
          obtain ⟨hfront, hback⟩ := ih htail
          exact ⟨.char hd hfront, hback⟩
  | @tag tag text htag hrest ih =>
      -- The mark is not in the tag, so that the tag lies wholly in front of it.
      rcases List.append_eq_append_iff.mp htext with ⟨inner, hsource, hinner⟩ | ⟨inner, rfl, hback⟩
      · cases inner with
        | nil =>
            rw [List.append_nil] at hsource
            obtain ⟨-, hback⟩ := ih (List.nil_append _ |>.trans hinner)
            rw [← hsource, ← List.append_nil tag.source]
            exact ⟨.tag htag .nil, hback⟩
        | cons d inner =>
            rw [List.cons_append, List.cons.injEq] at hinner
            have hmem : c ∈ tag.source := by
              rw [hsource, hinner.1]
              exact List.mem_append_right _ List.mem_cons_self
            rw [not_isMarkChar_of_mem_emphasisTags tag htag c hmem] at hc
            cases hc
      · obtain ⟨hfront, hback⟩ := ih hback.symm
        exact ⟨.tag htag hfront, hback⟩

/-- **Cutting at a mark**: what is in front of it and what follows it are emphasised. -/
lemma Emphasised.split_mark {front mark rest : Text} (hne : mark ≠ [])
    (hmark : ∀ c ∈ mark, isMarkChar c = true) (h : Emphasised (front ++ (mark ++ rest))) :
    Emphasised front ∧ Emphasised rest := by
  induction mark generalizing front with
  | nil => exact absurd rfl hne
  | cons c mark ih =>
      rw [List.forall_mem_cons] at hmark
      obtain ⟨hfront, hback⟩ := h.split hmark.1
      refine ⟨hfront, ?_⟩
      cases mark with
      | nil => exact hback
      | cons d mark =>
          have hnext : Emphasised ([] ++ (d :: mark ++ rest)) := hback
          exact (ih (List.cons_ne_nil d mark) hmark.2 hnext).2

/-! ### Passes -/

/-- A pass for emphasis: its marks are not empty and consist of mark characters, and it puts an
element around the body of a run. -/
structure Pass.IsEmphasis (pass : Pass) : Prop where
  marks : ∀ d ∈ pass.delimiters, d.mark ≠ [] ∧ ∀ c ∈ d.mark, isMarkChar c = true
  wraps : ∃ kind, ∀ body,
    pass.wrap body = (Tag.opens kind).source ++ body ++ (Tag.closes kind).source

lemma isEmphasis_of_mem_all : ∀ pass ∈ Pass.all, pass.IsEmphasis := by
  rw [Pass.all, List.forall_mem_cons, List.forall_mem_cons, List.forall_mem_singleton]
  exact ⟨⟨by decide, .strong, strong_eq⟩, ⟨by decide, .struck, struck_eq⟩,
    by decide, .emphasis, emphasis_eq⟩

lemma Pass.IsEmphasis.emphasised_wrap {pass : Pass} (h : pass.IsEmphasis) {body : Text}
    (hbody : Emphasised body) : Emphasised (pass.wrap body) := by
  obtain ⟨kind, hwrap⟩ := h.wraps
  have hclosing : Emphasised ((Tag.closes kind).source ++ []) :=
    .tag (closes_mem_emphasisTags kind) .nil
  rw [List.append_nil] at hclosing
  rw [hwrap, List.append_assoc]
  exact .tag (opens_mem_emphasisTags kind) (hbody.append hclosing)

/-- The body of a segment that is a run. -/
def Segment.body? : Segment → Option Text
  | .plain _ => none
  | .run _ body => some body

/-- **The bodies** that a pass puts its element around, from left to right. -/
def Pass.bodies (pass : Pass) (text : Text) : List Text :=
  (segments pass.delimiters none text).filterMap Segment.body?

/-- **How a pass goes through an emphasised text**: inert characters and whole tags stay, and the
body of a run, which is an emphasised text itself, is wrapped. The bodies are listed. -/
inductive Pass.Wraps (pass : Pass) : Text → Text → List Text → Prop where
  | nil : Pass.Wraps pass [] [] []
  | char {c : Char} {rest out : Text} {bodies : List Text} : isInert c = true →
      Pass.Wraps pass rest out bodies → Pass.Wraps pass (c :: rest) (c :: out) bodies
  | tag {tag : Tag} {rest out : Text} {bodies : List Text} : tag ∈ emphasisTags →
      Pass.Wraps pass rest out bodies →
      Pass.Wraps pass (tag.source ++ rest) (tag.source ++ out) bodies
  | run {d : Delimiter} {body after out : Text} {bodies : List Text} : d ∈ pass.delimiters →
      Emphasised body → Pass.Wraps pass after out bodies →
      Pass.Wraps pass (d.mark ++ (body ++ (d.mark ++ after))) (pass.wrap body ++ out)
        (body :: bodies)

/-- The invariant of a pass over a text: it may stand inside a tag, of which it leaves the rest as
it is, and goes on through the emphasised text behind that tag. -/
lemma Pass.IsEmphasis.wraps_segments {pass : Pass} (h : pass.IsEmphasis) (before : Option Char)
    {part rest : Text} (hpart : ∀ c ∈ part, isMarkChar c = false) (hrest : Emphasised rest) :
    ∃ out, (segments pass.delimiters before (part ++ rest)).flatMap pass.wrapSegment = part ++ out
      ∧ pass.Wraps rest out
        ((segments pass.delimiters before (part ++ rest)).filterMap Segment.body?) := by
  have hempty : ∀ c ∈ ([] : Text), isMarkChar c = false := List.forall_mem_nil _
  generalize htext : part ++ rest = text
  fun_induction segments pass.delimiters before text generalizing part rest with
  | case1 before =>
      obtain ⟨rfl, rfl⟩ := List.append_eq_nil_iff.mp htext
      exact ⟨[], rfl, .nil⟩
  | case2 before c tail d body after hrun ih =>
      -- A run begins here: a mark stands in no tag, so that no rest of a tag comes before it.
      obtain ⟨hd, hsource, -⟩ := firstRun?_eq_some hrun
      obtain ⟨hne, hmark⟩ := h.marks d hd
      have hc : isMarkChar c = true := by
        obtain ⟨m, more, hm⟩ := List.exists_cons_of_ne_nil hne
        rw [hm] at hsource
        rw [(List.cons.inj hsource).1]
        exact hmark m (by rw [hm]; exact List.mem_cons_self)
      cases part with
      | cons e part =>
          rw [← (List.cons.inj htext).1, hpart e List.mem_cons_self] at hc
          cases hc
      | nil =>
          obtain rfl : rest = d.mark ++ (body ++ (d.mark ++ after)) := by
            rw [← List.nil_append rest, htext, hsource]
            simp
          have hmarked : Emphasised ([] ++ (d.mark ++ (body ++ (d.mark ++ after)))) := hrest
          obtain ⟨hbody, hafter⟩ := (hmarked.split_mark hne hmark).2.split_mark hne hmark
          obtain ⟨out, hout, hwraps⟩ := ih hempty hafter (List.nil_append after)
          refine ⟨pass.wrap body ++ out, ?_, .run hd hbody hwraps⟩
          rw [List.flatMap_cons, hout]
          rfl
  | case3 before c tail hnone ih =>
      -- The character belongs to the rest of a tag, is inert, or begins another tag.
      cases part with
      | cons e part =>
          rw [List.forall_mem_cons] at hpart
          rw [List.cons_append, List.cons.injEq] at htext
          obtain ⟨out, hout, hwraps⟩ := ih hpart.2 hrest htext.2
          refine ⟨out, ?_, hwraps⟩
          rw [List.flatMap_cons, hout, htext.1]
          rfl
      | nil =>
          obtain rfl : rest = c :: tail := htext
          rcases hrest.of_cons with ⟨hc, htail⟩ | ⟨tag, htag, part, more, hsource, rfl, hmore⟩
          · obtain ⟨out, hout, hwraps⟩ := ih hempty htail (List.nil_append tail)
            refine ⟨c :: out, ?_, .char hc hwraps⟩
            rw [List.flatMap_cons, hout]
            rfl
          · have hpart' : ∀ d ∈ part, isMarkChar d = false := fun d hd =>
              not_isMarkChar_of_mem_emphasisTags tag htag d
                (by rw [hsource]; exact List.mem_cons_of_mem c hd)
            obtain ⟨out, hout, hwraps⟩ := ih hpart' hmore rfl
            have hwhole := Pass.Wraps.tag htag hwraps
            refine ⟨tag.source ++ out, ?_, ?_⟩
            · rw [List.flatMap_cons, hout, hsource]
              rfl
            · rwa [hsource] at hwhole ⊢

/-- **A pass goes through** an emphasised text. -/
lemma Pass.wraps_wrapRuns {pass : Pass} (hpass : pass ∈ Pass.all) {text : Text}
    (h : Emphasised text) : pass.Wraps text (pass.wrapRuns text) (pass.bodies text) := by
  have hempty : ∀ c ∈ ([] : Text), isMarkChar c = false := List.forall_mem_nil _
  obtain ⟨out, hout, hwraps⟩ :=
    (isEmphasis_of_mem_all pass hpass).wraps_segments none hempty h
  rw [List.nil_append, List.nil_append] at hout
  rw [Pass.wrapRuns, hout]
  exact hwraps

lemma Pass.Wraps.emphasised {pass : Pass} (hpass : pass.IsEmphasis) {text out : Text}
    {bodies : List Text} (h : pass.Wraps text out bodies) : Emphasised out := by
  induction h with
  | nil => exact .nil
  | char hc _ ih => exact .char hc ih
  | tag htag _ ih => exact .tag htag ih
  | run _ hbody _ ih => exact (hpass.emphasised_wrap hbody).append ih

/-- **A pass keeps a text emphasised**. -/
lemma Pass.emphasised_wrapRuns {pass : Pass} (hpass : pass ∈ Pass.all) {text : Text}
    (h : Emphasised text) : Emphasised (pass.wrapRuns text) :=
  (Pass.wraps_wrapRuns hpass h).emphasised (isEmphasis_of_mem_all pass hpass)

lemma emphasised_escape (text : Text) : Emphasised (Entity.escape false text) :=
  emphasised_of_inert fun _ hc => Entity.isInert_of_mem_escape hc

/-- **What every pass keeps** of emphasised texts holds of running text, if it holds of the escaped
text. -/
lemma formatText_ind {P : Text → Prop} {text : Text} (escaped : P (Entity.escape false text))
    (step : ∀ pass ∈ Pass.all, ∀ text, Emphasised text → P text → P (pass.wrapRuns text)) :
    P (formatText text) := by
  have hpasses : ∀ passes : List Pass, (∀ pass ∈ passes, pass ∈ Pass.all) → ∀ start,
      Emphasised start → P start → P (passes.foldl (fun acc pass => pass.wrapRuns acc) start) := by
    intro passes hmem
    induction passes with
    | nil => exact fun start _ hstart => hstart
    | cons pass rest ih =>
        rw [List.forall_mem_cons] at hmem
        exact fun start hemphasised hstart => ih hmem.2 _
          (Pass.emphasised_wrapRuns hmem.1 hemphasised) (step pass hmem.1 start hemphasised hstart)
  exact hpasses Pass.all (fun pass hpass => hpass) _ (emphasised_escape text) escaped

/-- **Running text** becomes an emphasised text, whatever it holds. -/
theorem emphasised_formatText (text : Text) : Emphasised (formatText text) :=
  formatText_ind (P := Emphasised) (emphasised_escape text)
    fun _ hpass _ h _ => Pass.emphasised_wrapRuns hpass h

end BlockTree.Inline
