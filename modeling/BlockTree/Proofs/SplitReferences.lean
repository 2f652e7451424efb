import BlockTree.Proofs.CutReferences
import BlockTree.Proofs.EmphasisNesting

/-!
References in running text, and the marks of emphasis that split them.

* `Pass.cuts`: where a pass puts a tag for a mark. `Pass.ampersandsBegin_wrapRuns_iff`: the ampersands
  of a text begin references after a pass just if they did before and none of these places is inside a
  reference.
* `RunsSpareReferences`: so it is in all passes, each seeing the text of the one before.
* `ampersandsBegin_formatText_iff`: exactly then all ampersands of running text begin references.
* `hasOuterUnderscore_of_mem_cuts`: the underscore is the only mark that is part of a reference, and
  one with word characters on both sides is no mark, so that only references with an underscore at an
  end of their names are cut.
* `runsDecide_ampersandsBegin`, `standard_line_ampersandsBegin_iff`: the same for lines.
  `split_reference`: not all references are spared.
-/

namespace BlockTree.Inline

open Entity (AmpersandsBegin CutsReference IsReference IsWhole ampersandsBegin_append_iff)

/-! ### Tags -/

section

variable {P : Text → Prop} (hP : ∀ reference, P reference → IsReference reference)

include hP

/-- No reference goes over a tag. -/
lemma ampersandsBegin_tag_append_iff {tag : Tag} (htag : AmpersandsBegin P tag.source)
    {front back : Text} :
    AmpersandsBegin P (front ++ (tag.source ++ back))
      ↔ AmpersandsBegin P front ∧ AmpersandsBegin P back := by
  have hcut : ¬ CutsReference front (tag.source ++ back) := Entity.not_cutsReference_lt front _
  rw [← and_iff_left (a := AmpersandsBegin P (front ++ _)) hcut, ampersandsBegin_append_iff hP]
  exact and_congr_right' ⟨AmpersandsBegin.of_append, htag.append⟩

lemma ampersandsBegin_element_iff {opening closing : Tag}
    (hopening : AmpersandsBegin P opening.source) (hclosing : AmpersandsBegin P closing.source)
    {body : Text} :
    AmpersandsBegin P (opening.source ++ body ++ closing.source) ↔ AmpersandsBegin P body := by
  have hbody : AmpersandsBegin P (body ++ (closing.source ++ []))
      ↔ AmpersandsBegin P body ∧ AmpersandsBegin P [] :=
    ampersandsBegin_tag_append_iff hP hclosing
  rw [List.append_nil] at hbody
  rw [List.append_assoc, ← List.nil_append (opening.source ++ _),
    ampersandsBegin_tag_append_iff hP hopening, hbody]
  simp [AmpersandsBegin.nil]

end

/-! ### Cuts -/

/-- **The cuts** that a pass makes in segments behind a text, one for each mark: the text in front of
the mark, and the text from the mark on. -/
def cutsFrom (front : Text) : List Segment → List (Text × Text)
  | [] => []
  | .plain c :: rest => cutsFrom (front ++ [c]) rest
  | .run d body :: rest =>
    let back := d.mark ++ rest.flatMap Segment.source
    (front, d.mark ++ (body ++ back)) :: (front ++ (d.mark ++ body), back)
      :: cutsFrom (front ++ (d.mark ++ body) ++ d.mark) rest

/-- The cuts that a pass makes in a text. -/
def Pass.cuts (pass : Pass) (text : Text) : List (Text × Text) :=
  cutsFrom [] (segments pass.delimiters none text)

lemma delimiter_mem_of_mem_segments {delimiters : List Delimiter} {before : Option Char}
    {text body : Text} {d : Delimiter} (h : .run d body ∈ segments delimiters before text) :
    d ∈ delimiters := by
  fun_induction segments delimiters before text with
  | case1 => cases h
  | case2 before c rest other inner after hrun ih =>
      rcases List.mem_cons.mp h with heq | hmem
      · cases heq
        exact (firstRun?_eq_some hrun).1
      · exact ih hmem
  | case3 before c rest hnone ih =>
      rcases List.mem_cons.mp h with heq | hmem
      · cases heq
      · exact ih hmem

/-- A delimiter has a run only between characters that let its marks stand there. -/
lemma allows_of_firstRun? {delimiters : List Delimiter} {before : Option Char}
    {text body after : Text} {d : Delimiter}
    (h : firstRun? delimiters before text = some (d, body, after)) :
    d.allows before = true ∧ d.allows after.head? = true := by
  obtain ⟨other, -, hrun⟩ := List.exists_of_findSome?_eq_some h
  simp only [Option.map_eq_some_iff, Prod.mk.injEq, Prod.exists] at hrun
  obtain ⟨_, _, hrun, rfl, rfl, rfl⟩ := hrun
  rw [Delimiter.run?] at hrun
  split at hrun
  · rename_i hbefore
    obtain ⟨rest, -, hbody⟩ := Option.bind_eq_some_iff.mp hrun
    obtain ⟨close, -, hclose, -⟩ := body?_eq_some hbody
    exact ⟨hbefore, (Option.filter_eq_some_iff.mp hclose).2⟩
  · cases hrun

/-- **Each cut falls directly in front of a mark**, which opens or closes a run, so that it is allowed
next to the character in front of it or next to the one behind it. -/
lemma mem_cutsFrom_segments {delimiters : List Delimiter} (hmarks : ∀ d ∈ delimiters, d.mark ≠ [])
    {before : Option Char} {text front : Text} (hbefore : before = front.getLast?)
    {cut : Text × Text} (h : cut ∈ cutsFrom front (segments delimiters before text)) :
    cut.1 ++ cut.2 = front ++ text
      ∧ ∃ d ∈ delimiters, ∃ after, cut.2 = d.mark ++ after
        ∧ (d.allows cut.1.getLast? = true ∨ d.allows after.head? = true) := by
  fun_induction segments delimiters before text generalizing front with
  | case1 => cases h
  | case2 before c rest d body after hrun ih =>
      obtain ⟨hd, hsource, -⟩ := firstRun?_eq_some hrun
      obtain ⟨hopens, hcloses⟩ := allows_of_firstRun? hrun
      simp only [cutsFrom, source_segments, List.mem_cons] at h
      rcases h with rfl | rfl | h
      · exact ⟨by simp [hsource], d, hd, _, rfl, Or.inl (hbefore ▸ hopens)⟩
      · exact ⟨by simp [hsource], d, hd, after, rfl, Or.inr hcloses⟩
      · have hlast : d.mark.getLast? = (front ++ (d.mark ++ body) ++ d.mark).getLast? := by
          rw [List.getLast?_append_of_ne_nil _ (hmarks d hd)]
        obtain ⟨hcut, hmark⟩ := ih hlast h
        exact ⟨by rw [hcut, hsource]; simp, hmark⟩
  | case3 before c rest hnone ih =>
      obtain ⟨hcut, hmark⟩ := ih List.getLast?_concat.symm h
      exact ⟨by rw [hcut]; simp, hmark⟩

/-! ### Passes -/

lemma ampersand_notMem_of_isMarkChar {mark : Text} (h : ∀ c ∈ mark, isMarkChar c = true) :
    '&' ∉ mark :=
  fun hmem => absurd (h _ hmem) (by decide)

lemma ampersand_notMem_emphasisTags : ∀ tag ∈ emphasisTags, '&' ∉ tag.source := by
  decide

section

variable {P : Text → Prop} (hP : ∀ reference, P reference → IsReference reference)

include hP

/-- A mark between two texts, behind whole text. -/
lemma ampersandsBegin_mark_append_iff {mark : Text} (hmark : '&' ∉ mark) {done : Text}
    (hdone : IsWhole done) (front back : Text) :
    AmpersandsBegin P (front ++ (mark ++ back)) ∧ ¬ CutsReference (done ++ front) (mark ++ back)
      ↔ AmpersandsBegin P front ∧ AmpersandsBegin P back := by
  rw [hdone.cutsReference_append_iff, ampersandsBegin_append_iff hP]
  exact and_congr_right' ⟨AmpersandsBegin.of_append, AmpersandsBegin.append_of_notMem hmark⟩

/-- An element of emphasis between two texts. -/
lemma Pass.Puts.ampersandsBegin_append_iff {pass : Pass} {kind : EmphasisKind}
    (hputs : pass.Puts kind) (front body back : Text) :
    AmpersandsBegin P (front ++ (pass.wrap body ++ back))
      ↔ AmpersandsBegin P front ∧ AmpersandsBegin P body ∧ AmpersandsBegin P back := by
  have hopening : AmpersandsBegin P (Tag.opens kind).source :=
    .of_notMem (ampersand_notMem_emphasisTags _ (opens_mem_emphasisTags kind))
  have hclosing : AmpersandsBegin P (Tag.closes kind).source :=
    .of_notMem (ampersand_notMem_emphasisTags _ (closes_mem_emphasisTags kind))
  rw [hputs, List.append_assoc, List.append_assoc, ampersandsBegin_tag_append_iff hP hopening,
    ampersandsBegin_tag_append_iff hP hclosing]

/-- **The invariant of a pass**: the text since the last run, in front of the segments that are still
to come. What is in front of that text, up to the last run, is whole. -/
lemma Pass.ampersandsBegin_segments_iff {pass : Pass} {kind : EmphasisKind} (hputs : pass.Puts kind)
    {segs : List Segment} (hmarks : ∀ d body, .run d body ∈ segs → '&' ∉ d.mark) {done : Text}
    (hdone : IsWhole done) (stretch : Text) :
    AmpersandsBegin P (stretch ++ segs.flatMap pass.wrapSegment)
      ↔ AmpersandsBegin P (stretch ++ segs.flatMap Segment.source)
        ∧ ∀ cut ∈ cutsFrom (done ++ stretch) segs, ¬ CutsReference cut.1 cut.2 := by
  induction segs generalizing done stretch with
  | nil => exact (and_iff_left (List.forall_mem_nil _)).symm
  | cons segment segs ih =>
      have hlater : ∀ d body, .run d body ∈ segs → '&' ∉ d.mark :=
        fun d body hmem => hmarks d body (List.mem_cons_of_mem _ hmem)
      cases segment with
      | plain c =>
          have hplain := ih hlater hdone (stretch ++ [c])
          rw [List.append_assoc, List.append_assoc, ← List.append_assoc done] at hplain
          exact hplain
      | run d body =>
          have hmark : '&' ∉ d.mark := hmarks d body List.mem_cons_self
          have hwhole : AmpersandsBegin P stretch → IsWhole (done ++ stretch ++ d.mark) := fun h =>
            (hdone.append (h.isWhole hP)).append (Entity.isWhole_of_notMem hmark)
          have hopening := ampersandsBegin_mark_append_iff hP hmark hdone stretch
            (body ++ (d.mark ++ segs.flatMap Segment.source))
          have hclosing := fun h => ampersandsBegin_mark_append_iff hP hmark (hwhole h) body
            (segs.flatMap Segment.source)
          have hrest : AmpersandsBegin P stretch → AmpersandsBegin P body → _ := fun h hbody =>
            ih hlater (((hwhole h).append (hbody.isWhole hP)).append
              (Entity.isWhole_of_notMem hmark)) []
          simp only [List.flatMap_cons, Pass.wrapSegment, Segment.source, cutsFrom,
            List.forall_mem_cons, List.append_assoc, List.nil_append, List.append_nil,
            hputs.ampersandsBegin_append_iff hP] at hclosing hrest ⊢
          constructor
          · rintro ⟨hstretch, hbody, hwrapped⟩
            obtain ⟨hsource, hspared⟩ := (hrest hstretch hbody).mp hwrapped
            obtain ⟨hback, hsecond⟩ := (hclosing hstretch).mpr ⟨hbody, hsource⟩
            obtain ⟨htext, hfirst⟩ := hopening.mpr ⟨hstretch, hback⟩
            exact ⟨htext, hfirst, hsecond, hspared⟩
          · rintro ⟨htext, hfirst, hsecond, hspared⟩
            obtain ⟨hstretch, hback⟩ := hopening.mp ⟨htext, hfirst⟩
            obtain ⟨hbody, hsource⟩ := (hclosing hstretch).mp ⟨hback, hsecond⟩
            exact ⟨hstretch, hbody, (hrest hstretch hbody).mpr ⟨hsource, hspared⟩⟩

/-- **After a pass the ampersands begin references** just if they did before, and no cut that the pass
makes goes through one. -/
lemma Pass.ampersandsBegin_wrapRuns_iff {pass : Pass} (hpass : pass ∈ Pass.all) (text : Text) :
    AmpersandsBegin P (pass.wrapRuns text)
      ↔ AmpersandsBegin P text ∧ ∀ cut ∈ pass.cuts text, ¬ CutsReference cut.1 cut.2 := by
  obtain ⟨kind, hputs⟩ := exists_puts hpass
  have hmarks : ∀ d body, .run d body ∈ segments pass.delimiters none text → '&' ∉ d.mark :=
    fun d body hmem => ampersand_notMem_of_isMarkChar
      ((isEmphasis_of_mem_all pass hpass).marks d (delimiter_mem_of_mem_segments hmem)).2
  have hsegments := Pass.ampersandsBegin_segments_iff hP hputs hmarks
    (Entity.isWhole_of_notMem List.not_mem_nil) []
  rw [List.nil_append, List.nil_append, source_segments] at hsegments
  exact hsegments

end

/-! ### Running text -/

/-- **The runs of a text spare its references**: no pass makes a cut through one, each seeing the text
of the one before. -/
def RunsSpareReferences : List Pass → Text → Prop
  | [], _ => True
  | pass :: rest, text =>
    (∀ cut ∈ pass.cuts text, ¬ CutsReference cut.1 cut.2)
      ∧ RunsSpareReferences rest (pass.wrapRuns text)

instance decidableRunsSpareReferences :
    (passes : List Pass) → (text : Text) → Decidable (RunsSpareReferences passes text)
  | [], _ => isTrue trivial
  | pass :: rest, text =>
    have := decidableRunsSpareReferences rest (pass.wrapRuns text)
    inferInstanceAs (Decidable (_ ∧ _))

lemma ampersandsBegin_passes_iff {passes : List Pass} (hpasses : ∀ pass ∈ passes, pass ∈ Pass.all)
    (text : Text) :
    AmpersandsBegin IsReference (passes.foldl (fun acc pass => pass.wrapRuns acc) text)
      ↔ AmpersandsBegin IsReference text ∧ RunsSpareReferences passes text := by
  induction passes generalizing text with
  | nil => exact (and_iff_left trivial).symm
  | cons pass passes ih =>
      obtain ⟨hmem, hmems⟩ := List.forall_mem_cons.mp hpasses
      rw [List.foldl_cons, ih hmems, Pass.ampersandsBegin_wrapRuns_iff (fun _ h => h) hmem,
        RunsSpareReferences, and_assoc]

/-- **The ampersands of running text begin references** just if its runs spare those of the escaped
text. -/
theorem ampersandsBegin_formatText_iff (text : Text) :
    AmpersandsBegin IsReference (formatText text)
      ↔ RunsSpareReferences Pass.all (Entity.escape false text) :=
  (ampersandsBegin_passes_iff (fun _ h => h) _).trans
    (and_iff_right (Entity.ampersandsBegin_escape text))

example : RunsSpareReferences Pass.all "_a_ &b_c;" ∧ ¬ RunsSpareReferences Pass.all "_a &b_;" := by
  decide +kernel

/-- The marks with underscores consist of them, and touch no word. -/
lemma bounded_of_underscore_mem : ∀ pass ∈ Pass.all, ∀ d ∈ pass.delimiters, '_' ∈ d.mark →
    d.bounded = true ∧ ∀ c ∈ d.mark, c = '_' := by
  decide

lemma not_isWord_of_allows {d : Delimiter} (hbounded : d.bounded = true) {outer : Option Char}
    (h : d.allows outer = true) : ∀ c ∈ outer, Text.isWord c = false := by
  rintro c ⟨⟩
  simpa [Delimiter.allows, hbounded] using h

/-- The underscore is the only character of marks that is part of references. -/
lemma eq_underscore_of_mem_reference {reference : Text} (h : IsReference reference) {c : Char}
    (hc : c ∈ reference) (hmark : isMarkChar c = true) : c = '_' := by
  have hcases := h.mem hc
  simp only [isMarkChar, Bool.or_eq_true, decide_eq_true_eq] at hmark
  rcases hmark with (rfl | rfl) | rfl
  · exact absurd hcases (by decide +kernel)
  · rfl
  · exact absurd hcases (by decide +kernel)

/-- **A cut goes only through a reference with an outer underscore**: inside of its name an underscore
touches a word on both sides. -/
lemma hasOuterUnderscore_of_mem_cuts {pass : Pass} (hpass : pass ∈ Pass.all) {text : Text}
    {cut : Text × Text} (hcut : cut ∈ pass.cuts text) {start stop : Text}
    (hstart : start <:+ cut.1) (hne : start ≠ []) (hbegins : stop <+: cut.2) (hstop : stop ≠ [])
    (h : IsReference (start ++ stop)) : Entity.HasOuterUnderscore (start ++ stop) := by
  have hmarks := (isEmphasis_of_mem_all pass hpass).marks
  obtain ⟨-, d, hd, after, hback, hallows⟩ :=
    mem_cutsFrom_segments (fun d hd => (hmarks d hd).1) rfl hcut
  rw [hback] at hbegins
  obtain ⟨c, rest, rfl⟩ := List.exists_cons_of_ne_nil hstop
  have hc : c ∈ d.mark := by
    obtain ⟨m, more, hmark⟩ := List.exists_cons_of_ne_nil (hmarks d hd).1
    rw [hmark] at hbegins ⊢
    rw [(List.cons_prefix_cons.mp hbegins).1]
    exact List.mem_cons_self
  obtain rfl : c = '_' := eq_underscore_of_mem_reference h
    (List.mem_append_right _ List.mem_cons_self) ((hmarks d hd).2 c hc)
  obtain ⟨hbounded, hunderscores⟩ := bounded_of_underscore_mem pass hpass d hd hc
  rcases hallows with hopens | hcloses
  · obtain ⟨before, hbefore⟩ := hstart
    rw [← hbefore, List.getLast?_append_of_ne_nil _ hne] at hopens
    exact h.hasOuterUnderscore_of_left (not_isWord_of_allows hbounded hopens)
  · exact h.hasOuterUnderscore_of_mark hstop hbegins (hmarks d hd).1 hunderscores
      (not_isWord_of_allows hbounded hcloses)

/-- **References without outer underscores are spared**. -/
lemma runsSpareReferences_of_not_hasOuterUnderscore {passes : List Pass}
    (hpasses : ∀ pass ∈ passes, pass ∈ Pass.all) {text : Text}
    (h : AmpersandsBegin
      (fun reference => IsReference reference ∧ ¬ Entity.HasOuterUnderscore reference) text) :
    RunsSpareReferences passes text := by
  induction passes generalizing text with
  | nil => trivial
  | cons pass passes ih =>
      obtain ⟨hmem, hmems⟩ := List.forall_mem_cons.mp hpasses
      have hspared : ∀ cut ∈ pass.cuts text, ¬ CutsReference cut.1 cut.2 := by
        intro cut hcut hcuts
        have hsource : cut.1 ++ cut.2 = text :=
          (mem_cutsFrom_segments (fun d hd => ((isEmphasis_of_mem_all pass hmem).marks d hd).1) rfl
            hcut).1
        obtain ⟨start, stop, hstart, hne, hstop, hstop', href, hunderscore⟩ :=
          AmpersandsBegin.exists_cut (fun _ h => h.1) (hsource ▸ h) hcuts
        exact hunderscore
          (hasOuterUnderscore_of_mem_cuts hmem hcut hstart hne hstop hstop' href)
      exact ⟨hspared, ih hmems
        ((Pass.ampersandsBegin_wrapRuns_iff (fun _ h => h.1) hmem text).mpr ⟨h, hspared⟩)⟩

/-! ### Whole texts -/

/-- A pass that puts in no tag leaves the text as it is. -/
lemma Pass.flatMap_wrapSegment_of_notMem {pass : Pass} {kind : EmphasisKind}
    (hputs : pass.Puts kind) {segs : List Segment} (h : '<' ∉ segs.flatMap pass.wrapSegment) :
    segs.flatMap pass.wrapSegment = segs.flatMap Segment.source := by
  refine List.flatMap_congr fun segment hsegment => ?_
  cases segment with
  | plain c => rfl
  | run d body =>
      refine absurd (List.mem_flatMap_of_mem hsegment ?_) h
      rw [Pass.wrapSegment, hputs, List.append_assoc]
      exact List.mem_cons_self

/-- **A pass keeps a text whole**. -/
lemma Pass.isWhole_segments {pass : Pass} {kind : EmphasisKind} (hputs : pass.Puts kind)
    {segs : List Segment} (h : IsWhole (segs.flatMap Segment.source)) :
    IsWhole (segs.flatMap pass.wrapSegment) := by
  induction segs with
  | nil => exact h
  | cons segment segs ih =>
      rw [List.flatMap_cons] at h
      have hrest := ih h.of_append
      cases segment with
      | run d body =>
          have hclosing : '&' ∉ (Tag.closes kind).inside ++ ['>'] := fun hmem =>
            ampersand_notMem_emphasisTags _ (closes_mem_emphasisTags kind)
              (List.mem_cons_of_mem '<' hmem)
          have hwhole := ((Entity.isWhole_of_notMem hclosing).append hrest).append_lt
            ((Tag.opens kind).source ++ body)
          rw [List.flatMap_cons, Pass.wrapSegment, hputs, List.append_assoc]
          exact hwhole
      | plain c =>
          -- A reference that the character begins does not go over a tag, and without one the text
          -- behind it stays.
          by_cases hlt : '<' ∈ segs.flatMap pass.wrapSegment
          · obtain ⟨front, back, hsplit⟩ := List.append_of_mem hlt
            rw [hsplit, List.append_cons] at hrest
            rw [List.flatMap_cons, hsplit]
            exact hrest.of_append.append_lt (c :: front)
          · rw [List.flatMap_cons, Pass.flatMap_wrapSegment_of_notMem hputs hlt]
            exact h

lemma isWhole_formatText (text : Text) : IsWhole (formatText text) := by
  have hescaped := (Entity.ampersandsBegin_escape text).isWhole fun _ h => h
  refine formatText_ind (P := IsWhole) hescaped fun pass hpass start _ hwhole => ?_
  obtain ⟨kind, hputs⟩ := exists_puts hpass
  rw [← source_segments pass.delimiters none start] at hwhole
  exact Pass.isWhole_segments hputs hwhole

/-! ### Spans -/

lemma ampersandsBegin_titleAttribute {title : Option Text}
    (h : ∀ words ∈ title, AmpersandsBegin IsReference words) :
    AmpersandsBegin IsReference (Markup.titleAttribute title) := by
  cases title with
  | none => exact .nil
  | some words =>
      exact ((AmpersandsBegin.of_notMem (by decide)).append (h words rfl)).append
        (.of_notMem (by decide))

/-- The ampersands of a tag begin references if those of the texts in it do. -/
lemma Tag.ampersandsBegin_source {tag : Tag}
    (h : ∀ value ∈ tag.values, AmpersandsBegin IsReference value) :
    AmpersandsBegin IsReference tag.source := by
  have htagged : ∀ inside, AmpersandsBegin IsReference inside →
      AmpersandsBegin IsReference (tagged inside []) := fun inside hinside =>
    (hinside.append (.of_notMem (by decide))).cons_of_ne (by decide)
  have hfixed : ∀ {words : Text}, '&' ∉ words → AmpersandsBegin IsReference words := .of_notMem
  cases tag with
  | opens kind => exact hfixed (ampersand_notMem_emphasisTags _ (opens_mem_emphasisTags kind))
  | closes kind => exact hfixed (ampersand_notMem_emphasisTags _ (closes_mem_emphasisTags kind))
  | opensCode => exact hfixed (by decide)
  | closesCode => exact hfixed (by decide)
  | closesLink => exact hfixed (by decide)
  | lineBreak => exact hfixed (by decide)
  | opensLink address title =>
      obtain ⟨haddress, htitle⟩ := List.forall_mem_cons.mp h
      have htitle := ampersandsBegin_titleAttribute fun words hwords =>
        htitle words (Option.mem_toList.mpr hwords)
      exact htagged _ ((((hfixed (by decide)).append haddress).append (hfixed (by decide))).append
        htitle)
  | opensReference number =>
      have hnumber := List.forall_mem_singleton.mp h
      have hnote : AmpersandsBegin IsReference (Markup.noteId number) :=
        (hfixed (by decide)).append hnumber
      have hback : AmpersandsBegin IsReference (Markup.referenceId number) :=
        (hfixed (by decide)).append hnumber
      exact htagged _ (((((hfixed (by decide)).append hnote).append (hfixed (by decide))).append
        hback).append (hfixed (by decide)))
  | image path alternative title =>
      obtain ⟨hpath, hothers⟩ := List.forall_mem_cons.mp h
      obtain ⟨halternative, htitle⟩ := List.forall_mem_cons.mp hothers
      have htitle := ampersandsBegin_titleAttribute fun words hwords =>
        htitle words (Option.mem_toList.mpr hwords)
      exact htagged _ (((((((hfixed (by decide)).append hpath).append (hfixed (by decide))).append
        halternative).append (hfixed (by decide))).append htitle).append (hfixed (by decide)))

lemma ampersand_notMem_integer (number : Int) : '&' ∉ Text.integer number := by
  intro h
  rcases Text.mem_integer h with heq | hdigit
  · cases heq
  · cases hdigit

/-- The title of a link or an image is escaped. -/
lemma ampersandsBegin_of_mem_title {title : Option Title} :
    ∀ words ∈ (title.map fun t => Entity.escape false t.words).toList,
      AmpersandsBegin IsReference words := by
  intro words hwords
  obtain ⟨t, -, rfl⟩ := Option.mem_map.mp (Option.mem_toList.mp hwords)
  exact Entity.ampersandsBegin_escape t.words

lemma ampersandsBegin_closesLink : AmpersandsBegin IsReference Tag.closesLink.source :=
  Tag.ampersandsBegin_source nofun

/-- **Running texts decide** whether references are spared: the ampersands of whole texts begin
references just if those of each of them do. -/
lemma runsDecide_ampersandsBegin :
    RunsDecide IsWhole (AmpersandsBegin IsReference) fun text =>
      RunsSpareReferences Pass.all (Entity.escape false text) where
  nil := .nil
  closed h := h.isWhole fun _ h => h
  append := IsWhole.append
  good_append_iff h _ := h.ampersandsBegin_append_iff fun _ h => h
  code body := by
    have hopening : AmpersandsBegin IsReference Tag.opensCode.source :=
      Tag.ampersandsBegin_source nofun
    have hclosing : AmpersandsBegin IsReference Tag.closesCode.source :=
      Tag.ampersandsBegin_source nofun
    rw [code_eq, ampersandsBegin_element_iff (fun _ h => h) hopening hclosing]
    exact Entity.ampersandsBegin_escape_every body
  image path alternative title := by
    have hescape := Entity.ampersandsBegin_escape
    rw [image_eq]
    exact Tag.ampersandsBegin_source (List.forall_mem_cons.mpr ⟨hescape path,
      List.forall_mem_cons.mpr ⟨hescape alternative, ampersandsBegin_of_mem_title⟩⟩)
  reference number := by
    have hnumber : AmpersandsBegin IsReference (Text.integer number) :=
      .of_notMem (ampersand_notMem_integer number)
    have hopening : AmpersandsBegin IsReference (Tag.opensReference number).source :=
      Tag.ampersandsBegin_source (List.forall_mem_singleton.mpr hnumber)
    rw [footnoteReference_eq, ampersandsBegin_element_iff (fun _ h => h) hopening
      ampersandsBegin_closesLink]
    exact hnumber
  running text := ⟨isWhole_formatText text, ampersandsBegin_formatText_iff text⟩
  link address label title := by
    have hopening : AmpersandsBegin IsReference (Tag.opensLink (Entity.escape false address)
        (title.map fun t => Entity.escape false t.words)).source :=
      Tag.ampersandsBegin_source (List.forall_mem_cons.mpr
        ⟨Entity.ampersandsBegin_escape address, ampersandsBegin_of_mem_title⟩)
    have hend : '&' ∉ Tag.closesLink.inside ++ ['>'] := by decide
    rw [link_eq, ampersandsBegin_element_iff (fun _ h => h) hopening ampersandsBegin_closesLink]
    exact ⟨(Entity.isWhole_of_notMem hend).append_lt _, ampersandsBegin_formatText_iff label⟩

/-! ### Lines -/

/-- **The references of a line** without tags: all ampersands of its markup begin references just if
the runs of each of its running texts spare those that escaping keeps. They do if the name of no
reference in the line begins or ends with an underscore. -/
theorem standard_line_ampersandsBegin_iff (footnotes : Entries Int) (line : Text) (h : '<' ∉ line) :
    (AmpersandsBegin IsReference (Converter.standard footnotes (.lines [line]))
      ↔ ∀ text ∈ runningTexts footnotes line,
          RunsSpareReferences Pass.all (Entity.escape false text))
    ∧ ((∀ reference, IsReference reference → reference <:+: line →
        ¬ Entity.HasOuterUnderscore reference) →
        AmpersandsBegin IsReference (Converter.standard footnotes (.lines [line]))) := by
  have hline : AmpersandsBegin IsReference (Converter.standard footnotes (.lines [line]))
      ↔ ∀ text ∈ runningTexts footnotes line,
          RunsSpareReferences Pass.all (Entity.escape false text) :=
    runsDecide_ampersandsBegin.good_renderLine_iff footnotes h
  refine ⟨hline, fun hunderscore => hline.mpr fun text htext => ?_⟩
  refine runsSpareReferences_of_not_hasOuterUnderscore (fun _ hpass => hpass)
    (Entity.ampersandsBegin_escape_of_references ?_ fun reference href hwithin =>
      ⟨href, hunderscore reference href (hwithin.trans (infix_of_mem_runningTexts htext))⟩)
  have hspecials : ∀ reference ∈ Entity.specials.entries.map Prod.snd,
      ¬ Entity.HasOuterUnderscore reference := by decide
  exact fun reference hmem => ⟨Entity.isReference_of_mem_specials hmem, hspecials reference hmem⟩

/-- Emphasis next to a reference, an underscore in one, and one next to an ampersand that begins none.
-/
theorem standard_line_ampersandsBegin_lt :
    '<' ∉ "_a_&l_t;_b_ *c &_d*".toList
    ∧ (∀ reference, IsReference reference → reference <:+: "_a_&l_t;_b_ *c &_d*".toList →
        ¬ Entity.HasOuterUnderscore reference)
    ∧ AmpersandsBegin IsReference (Converter.standard [] (.lines ["_a_&l_t;_b_ *c &_d*"])) := by
  have hline : '<' ∉ "_a_&l_t;_b_ *c &_d*".toList := by decide
  have hparts : ∀ back ∈ "_a_&l_t;_b_ *c &_d*".toList.tails, ∀ reference ∈ back.inits,
      IsReference reference → ¬ Entity.HasOuterUnderscore reference := by
    decide +kernel
  have hunderscore : ∀ reference, IsReference reference →
      reference <:+: "_a_&l_t;_b_ *c &_d*".toList → ¬ Entity.HasOuterUnderscore reference := by
    intro reference href hwithin
    obtain ⟨back, hbegins, hsuffix⟩ := List.infix_iff_prefix_suffix.mp hwithin
    exact hparts back ((List.mem_tails _ _).mpr hsuffix) reference
      ((List.mem_inits _ _).mpr hbegins) href
  exact ⟨hline, hunderscore, (standard_line_ampersandsBegin_iff [] _ hline).2 hunderscore⟩

/-- **A reference that is split**: its ampersand and an underscore behind it touch no word, so that the
underscore begins a run. -/
theorem split_reference :
    '<' ∉ "&_a; b_".toList
    ∧ AmpersandsBegin IsReference "&_a; b_".toList
    ∧ Converter.standard [] (.lines ["&_a; b_"]) = "&<em>a; b</em>".toList
    ∧ ¬ AmpersandsBegin IsReference (Converter.standard [] (.lines ["&_a; b_"])) := by
  decide +kernel

end BlockTree.Inline
