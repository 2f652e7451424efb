import BlockTree.Proofs.EnclosedTags
import BlockTree.Proofs.OwnTag
import BlockTree.Proofs.RunningText

/-!
Nesting of the tags that emphasis gives rise to.

* `Pass.Wraps.exists_encloses`: a pass puts an element around the tags in each of its bodies, and
  `Pass.wellNested_wrapRuns_iff`: the text is well nested afterwards just if it was before, and so
  were the bodies.
* `RunsNest`: the bodies of all passes are well nested, each pass seeing the text of the one before.
* `wellNested_formatText_iff`: exactly then running text is well nested.
* `runsDecide_wellNested`: other spans do not interfere with that; what stands in them is running
  text, or has no tags.
* `standard_line_wellNested_iff`: so a line is well nested just if the runs of all its running texts
  nest. `crossing_runs_not_wellNested`: not all do.
-/

namespace BlockTree.Inline

open Entity (isInert)

/-! ### Tags of emphasised texts -/

lemma tagRole_opens (kind : EmphasisKind) :
    tagRole (Tag.opens kind).inside = .opens kind.name := by
  cases kind <;> decide

lemma tagRole_closes (kind : EmphasisKind) :
    tagRole (Tag.closes kind).inside = .closes kind.name := by
  cases kind <;> decide

lemma hasTags_source_append {tag : Tag} (htag : tag.IsInert) {rest : Text} {tags : List Text}
    (h : HasTags rest tags) : HasTags (tag.source ++ rest) (tag.inside :: tags) :=
  (HasTags.tag htag.isTagChar .nil).append h

lemma lt_ne_of_isInert {c : Char} (h : isInert c = true) : c ≠ '<' := by
  rintro rfl
  exact absurd h (by decide)

lemma lt_notMem_of_isMarkChar {mark : Text} (h : ∀ c ∈ mark, isMarkChar c = true) : '<' ∉ mark :=
  fun hmem => absurd (h _ hmem) (by decide)

/-- The tags of an emphasised text are tags of emphasis. -/
lemma Emphasised.exists_hasTags {text : Text} (h : Emphasised text) :
    ∃ tags, HasTags text tags ∧ ∀ tag ∈ tags, tag ∈ emphasisTags.map Tag.inside := by
  induction h with
  | nil => exact ⟨[], .nil, List.forall_mem_nil _⟩
  | char hc _ ih =>
      obtain ⟨tags, htags, hmem⟩ := ih
      exact ⟨tags, .char (lt_ne_of_isInert hc) htags, hmem⟩
  | tag htag _ ih =>
      obtain ⟨tags, htags, hmem⟩ := ih
      exact ⟨_, hasTags_source_append (isInert_of_mem_emphasisTags _ htag) htags,
        List.forall_mem_cons.mpr ⟨List.mem_map_of_mem htag, hmem⟩⟩

/-- **A pass puts an element of this kind** around the bodies of runs. -/
def Pass.Puts (pass : Pass) (kind : EmphasisKind) : Prop :=
  ∀ body, pass.wrap body = (Tag.opens kind).source ++ body ++ (Tag.closes kind).source

/-- **What a pass does to the tags**: it puts an element around the tags of each body. -/
lemma Pass.Wraps.exists_encloses {pass : Pass} (hpass : pass ∈ Pass.all) {kind : EmphasisKind}
    (hputs : pass.Puts kind) {text out : Text} {bodies : List Text}
    (h : pass.Wraps text out bodies) :
    ∃ inner tags wrapped, List.Forall₂ HasTags bodies inner ∧ HasTags text tags
      ∧ HasTags out wrapped
      ∧ Encloses (Tag.opens kind).inside (Tag.closes kind).inside inner tags wrapped := by
  induction h with
  | nil => exact ⟨[], [], [], .nil, .nil, .nil, .nil⟩
  | char hc _ ih =>
      obtain ⟨inner, tags, wrapped, hinner, htags, hwrapped, hencloses⟩ := ih
      have hne := lt_ne_of_isInert hc
      exact ⟨inner, tags, wrapped, hinner, .char hne htags, .char hne hwrapped, hencloses⟩
  | tag htag _ ih =>
      obtain ⟨inner, tags, wrapped, hinner, htags, hwrapped, hencloses⟩ := ih
      have hinert := isInert_of_mem_emphasisTags _ htag
      exact ⟨inner, _, _, hinner, hasTags_source_append hinert htags,
        hasTags_source_append hinert hwrapped, .keep _ hencloses⟩
  | @run d body after out bodies hd hbody _ ih =>
      obtain ⟨inner, tags, wrapped, hinner, htags, hwrapped, hencloses⟩ := ih
      obtain ⟨inside, hinside, -⟩ := hbody.exists_hasTags
      have hmark : HasTags d.mark [] := hasTags_of_notMem
        (lt_notMem_of_isMarkChar ((isEmphasis_of_mem_all pass hpass).marks d hd).2)
      have hopening := isInert_of_mem_emphasisTags _ (opens_mem_emphasisTags kind)
      have hclosing := isInert_of_mem_emphasisTags _ (closes_mem_emphasisTags kind)
      refine ⟨inside :: inner, inside ++ tags, _, .cons hinside hinner,
        hmark.append (hinside.append (hmark.append htags)), ?_, .element inside hencloses⟩
      rw [hputs, List.append_assoc, List.append_assoc]
      exact hasTags_source_append hopening
        (hinside.append (hasTags_source_append hclosing hwrapped))

/-! ### Passes -/

section

variable {pass : Pass} (hpass : pass ∈ Pass.all) {kind : EmphasisKind} (hputs : pass.Puts kind)
  {text : Text} (htext : Emphasised text)

include hpass hputs htext

lemma Pass.exists_encloses {tags : List Text} (htags : HasTags text tags) :
    ∃ inner wrapped, List.Forall₂ HasTags (pass.bodies text) inner
      ∧ HasTags (pass.wrapRuns text) wrapped
      ∧ Encloses (Tag.opens kind).inside (Tag.closes kind).inside inner tags wrapped := by
  obtain ⟨inner, others, wrapped, hinner, hothers, hwrapped, hencloses⟩ :=
    (Pass.wraps_wrapRuns hpass htext).exists_encloses hpass hputs
  obtain rfl := hothers.unique htags
  exact ⟨inner, wrapped, hinner, hwrapped, hencloses⟩

/-- **After a pass a text is well nested** just if it was before, and so were the bodies of the
runs. -/
lemma Pass.wellNested_wrapRuns_iff (hlacks : Lacks kind.name text) :
    WellNested (pass.wrapRuns text)
      ↔ (∀ body ∈ pass.bodies text, WellNested body) ∧ WellNested text := by
  obtain ⟨tags, htags, havoids⟩ := hlacks
  obtain ⟨inner, wrapped, hinner, hwrapped, hencloses⟩ :=
    Pass.exists_encloses hpass hputs htext htags
  rw [hwrapped.wellNested_iff, htags.wellNested_iff, forall_wellNested_iff hinner]
  exact hencloses.unclosed?_iff (tagRole_opens kind) (tagRole_closes kind) havoids [] []

lemma Pass.lacks_wrapRuns {other : EmphasisKind} (hother : other ≠ kind)
    (hlacks : Lacks other.name text) : Lacks other.name (pass.wrapRuns text) := by
  obtain ⟨tags, htags, havoids⟩ := hlacks
  obtain ⟨inner, wrapped, -, hwrapped, hencloses⟩ :=
    Pass.exists_encloses hpass hputs htext htags
  have hnames : Avoids other.name [(Tag.opens kind).inside]
      ∧ Avoids other.name [(Tag.closes kind).inside] := by
    simp only [Avoids, List.forall_mem_singleton, tagRole_opens, tagRole_closes]
    revert hother
    cases other <;> cases kind <;> decide
  exact ⟨wrapped, hwrapped, hencloses.avoids hnames.1 hnames.2 havoids⟩

lemma Pass.isEven_wrapRuns (heven : IsEven text) : IsEven (pass.wrapRuns text) := by
  obtain ⟨tags, htags, hbalance⟩ := heven
  obtain ⟨inner, wrapped, -, hwrapped, hencloses⟩ :=
    Pass.exists_encloses hpass hputs htext htags
  refine ⟨wrapped, hwrapped, ?_⟩
  rw [hencloses.balance_eq (tagRole_opens kind) (tagRole_closes kind), hbalance]

end

/-! ### Running text -/

/-- **The runs of a text nest** in each pass in turn: what its element is put around, with the tags
of the passes before it, is well nested. -/
def RunsNest : List Pass → Text → Prop
  | [], _ => True
  | pass :: rest, text =>
    (∀ body ∈ pass.bodies text, WellNested body) ∧ RunsNest rest (pass.wrapRuns text)

instance decidableRunsNest : (passes : List Pass) → (text : Text) → Decidable (RunsNest passes text)
  | [], _ => isTrue trivial
  | pass :: rest, text =>
    have := decidableRunsNest rest (pass.wrapRuns text)
    inferInstanceAs (Decidable (_ ∧ _))

lemma wellNested_passes_iff {passes : List Pass} {kinds : List EmphasisKind}
    (hputs : List.Forall₂ Pass.Puts passes kinds) (hpasses : ∀ pass ∈ passes, pass ∈ Pass.all)
    (hkinds : kinds.Nodup) {text : Text} (htext : Emphasised text)
    (hlacks : ∀ kind ∈ kinds, Lacks kind.name text) :
    WellNested (passes.foldl (fun acc pass => pass.wrapRuns acc) text)
      ↔ RunsNest passes text ∧ WellNested text := by
  induction hputs generalizing text with
  | nil => exact (and_iff_right trivial).symm
  | @cons pass kind passes kinds hpass hputs ih =>
      obtain ⟨hmem, hmems⟩ := List.forall_mem_cons.mp hpasses
      obtain ⟨hnew, hnodup⟩ := List.nodup_cons.mp hkinds
      obtain ⟨hlack, hlacks⟩ := List.forall_mem_cons.mp hlacks
      have hrest : ∀ other ∈ kinds, Lacks other.name (pass.wrapRuns text) := fun other hother =>
        Pass.lacks_wrapRuns hmem hpass htext (ne_of_mem_of_not_mem hother hnew)
          (hlacks other hother)
      rw [List.foldl_cons, ih hmems hnodup (Pass.emphasised_wrapRuns hmem htext) hrest,
        Pass.wellNested_wrapRuns_iff hmem hpass htext hlack, RunsNest, ← and_assoc]
      exact and_congr_left' and_comm

lemma puts_all : List.Forall₂ Pass.Puts Pass.all [.strong, .struck, .emphasis] :=
  .cons strong_eq (.cons struck_eq (.cons emphasis_eq .nil))

lemma exists_puts {pass : Pass} (h : pass ∈ Pass.all) : ∃ kind, pass.Puts kind :=
  (isEmphasis_of_mem_all pass h).wraps

lemma lt_notMem_escape (every : Bool) (text : Text) : '<' ∉ Entity.escape every text :=
  fun h => lt_ne_of_isInert (Entity.isInert_of_mem_escape h) rfl

/-- **Running text is well nested** just if its runs nest in each pass. -/
theorem wellNested_formatText_iff (text : Text) :
    WellNested (formatText text) ↔ RunsNest Pass.all (Entity.escape false text) := by
  have hnested := wellNested_of_notMem (lt_notMem_escape false text)
  have hpasses := wellNested_passes_iff puts_all (fun _ h => h) (by decide)
    (emphasised_escape text) fun _ _ => lacks_of_notMem (lt_notMem_escape false text)
  exact hpasses.trans (and_iff_left hnested)

lemma isEven_formatText (text : Text) : IsEven (formatText text) := by
  refine formatText_ind (P := IsEven) (wellNested_of_notMem (lt_notMem_escape false text)).isEven ?_
  intro pass hpass text htext heven
  obtain ⟨kind, hputs⟩ := exists_puts hpass
  exact Pass.isEven_wrapRuns hpass hputs htext heven

/-- No pass puts a link around anything. -/
lemma lacks_formatText (text : Text) : Lacks "a" (formatText text) := by
  have hnames : Avoids "a" (emphasisTags.map Tag.inside) := by
    have : ∀ tag ∈ emphasisTags.map Tag.inside,
        tagRole tag ≠ .opens "a" ∧ tagRole tag ≠ .closes "a" := by decide
    exact this
  obtain ⟨tags, htags, hmem⟩ := (emphasised_formatText text).exists_hasTags
  exact ⟨tags, htags, fun tag htag => hnames tag (hmem tag htag)⟩

/-! ### Elements -/

section

variable {opening closing : Tag} {name : Text} (hopening : opening.IsInert)
  (hclosing : closing.IsInert) (hopens : tagRole opening.inside = .opens name)
  (hcloses : tagRole closing.inside = .closes name)

include hopening hclosing in
lemma hasTags_element {body : Text} {tags : List Text} (h : HasTags body tags) :
    HasTags (opening.source ++ body ++ closing.source)
      (opening.inside :: (tags ++ [closing.inside])) := by
  rw [List.append_assoc]
  exact hasTags_source_append hopening (h.append (.tag hclosing.isTagChar .nil))

include hopening hclosing hopens hcloses

/-- **An element is well nested** just if its body is, unless the body has tags of its name. -/
lemma wellNested_element_iff {body : Text} (h : Lacks name body) :
    WellNested (opening.source ++ body ++ closing.source) ↔ WellNested body := by
  obtain ⟨tags, htags, havoids⟩ := h
  rw [(hasTags_element hopening hclosing htags).wellNested_iff, htags.wellNested_iff,
    unclosed?_enclosed hopens hcloses havoids]
  exact and_iff_left (by rw [unclosed?])

lemma isEven_element {body : Text} (h : IsEven body) :
    IsEven (opening.source ++ body ++ closing.source) := by
  obtain ⟨tags, htags, hbalance⟩ := h
  refine ⟨_, hasTags_element hopening hclosing htags, ?_⟩
  rw [balance_cons, balance_append, balance_cons, hopens, hcloses, hbalance]
  rfl

end

/-! ### Spans -/

lemma isElementName_a : IsElementName "a" := ⟨by decide, by decide, by decide⟩

lemma getLast?_titleAttribute (front : Text) (title : Option Text) :
    (front ++ "\"".toList ++ Markup.titleAttribute title).getLast? = some '"' := by
  cases title with
  | none =>
      show (front ++ "\"".toList ++ []).getLast? = some '"'
      rw [List.append_nil, List.getLast?_append]
      rfl
  | some words =>
      show (front ++ "\"".toList ++ (" title=\"".toList ++ words ++ "\"".toList)).getLast?
        = some '"'
      rw [List.getLast?_append, List.getLast?_append]
      rfl

lemma tagRole_opensLink (address : Text) (title : Option Text) :
    tagRole (Tag.opensLink address title).inside = .opens "a" := by
  have hname : "a href=\"".toList = "a".toList ++ ' ' :: "href=\"".toList := by decide
  have hlast := getLast?_titleAttribute ("a href=\"".toList ++ address) title
  show tagRole ("a href=\"".toList ++ address ++ "\"".toList ++ Markup.titleAttribute title) = _
  rw [hname, List.append_assoc, List.append_assoc, List.append_assoc] at hlast ⊢
  exact isElementName_a.tagRole_append rfl (by rw [hlast]; decide)

lemma tagRole_opensReference (number : Int) :
    tagRole (Tag.opensReference number).inside = .opens "a" := by
  have hname : "a href=\"#".toList = "a".toList ++ ' ' :: "href=\"#".toList := by decide
  have hend : "\" class=\"footnote\" title=\"see footnote\"".toList.getLast? = some '"' := by decide
  have hlast : ∀ front : Text,
      (front ++ "\" class=\"footnote\" title=\"see footnote\"".toList).getLast? = some '"' := by
    intro front
    rw [List.getLast?_append, hend]
    rfl
  have hinside := hlast ("a href=\"#".toList ++ Markup.noteId number ++ "\" id=\"".toList
    ++ Markup.referenceId number)
  show tagRole ("a href=\"#".toList ++ Markup.noteId number ++ "\" id=\"".toList
    ++ Markup.referenceId number ++ "\" class=\"footnote\" title=\"see footnote\"".toList) = _
  rw [hname, List.append_assoc, List.append_assoc, List.append_assoc, List.append_assoc]
    at hinside ⊢
  exact isElementName_a.tagRole_append rfl (by rw [hinside]; decide)

/-- An image stands alone. -/
lemma tagRole_image (path alternative : Text) (title : Option Text) :
    tagRole (Tag.image path alternative title).inside = .alone := by
  show tagRole ("img src=\"".toList ++ path ++ "\" alt=\"".toList ++ alternative ++ "\"".toList
    ++ Markup.titleAttribute title ++ ['/']) = _
  rw [tagRole, List.getLast?_concat, if_pos rfl]

lemma lt_notMem_integer (number : Int) : '<' ∉ Text.integer number :=
  fun h => lt_ne_of_isInert (isInert_of_mem_integer h) rfl

lemma isInert_escape {every : Bool} {text : Text} :
    ∀ c ∈ Entity.escape every text, isInert c = true :=
  fun _ hc => Entity.isInert_of_mem_escape hc

/-- A text without tags is well nested in an element. -/
lemma wellNested_element {opening closing : Tag} {name body : Text} (hopening : opening.IsInert)
    (hclosing : closing.IsInert) (hopens : tagRole opening.inside = .opens name)
    (hcloses : tagRole closing.inside = .closes name) (hbody : '<' ∉ body) :
    WellNested (opening.source ++ body ++ closing.source) :=
  (wellNested_element_iff hopening hclosing hopens hcloses (lacks_of_notMem hbody)).mpr
    (wellNested_of_notMem hbody)

lemma wellNested_image (path alternative : Text) (title : Option Title) :
    WellNested (Markup.image (Entity.escape false path) (Entity.escape false alternative)
      (title.map fun t => Entity.escape false t.words)) := by
  have hinert : (Tag.image (Entity.escape false path) (Entity.escape false alternative)
      (title.map fun t => Entity.escape false t.words)).IsInert :=
    List.forall_mem_cons.mpr ⟨isInert_escape,
      List.forall_mem_cons.mpr ⟨isInert_escape, isInert_of_mem_title⟩⟩
  rw [image_eq]
  exact (wellNested_of_notMem List.not_mem_nil).alone hinert.isTagChar (tagRole_image _ _ _)

/-- **Running texts decide** whether tags nest: even texts are well nested together just if each of
them is. -/
lemma runsDecide_wellNested :
    RunsDecide IsEven WellNested fun text => RunsNest Pass.all (Entity.escape false text) where
  nil := wellNested_of_notMem List.not_mem_nil
  closed := WellNested.isEven
  append := IsEven.append
  good_append_iff := IsEven.wellNested_append_iff
  code body := by
    have hopens : tagRole Tag.opensCode.inside = .opens "code" := by decide
    rw [code_eq]
    exact wellNested_element nofun nofun hopens (by decide) (lt_notMem_escape true body)
  image := wellNested_image
  reference number := by
    have hopening : (Tag.opensReference number).IsInert :=
      List.forall_mem_singleton.mpr fun _ hc => isInert_of_mem_integer hc
    rw [footnoteReference_eq]
    exact wellNested_element hopening nofun (tagRole_opensReference number) (by decide)
      (lt_notMem_integer number)
  running text := ⟨isEven_formatText text, wellNested_formatText_iff text⟩
  link address label title := by
    have hopening : (Tag.opensLink (Entity.escape false address)
        (title.map fun t => Entity.escape false t.words)).IsInert :=
      List.forall_mem_cons.mpr ⟨isInert_escape, isInert_of_mem_title⟩
    have hclosing : Tag.closesLink.IsInert := nofun
    have hopens := tagRole_opensLink (Entity.escape false address)
      (title.map fun t => Entity.escape false t.words)
    have hcloses : tagRole Tag.closesLink.inside = .closes "a" := by decide
    rw [link_eq, wellNested_element_iff hopening hclosing hopens hcloses (lacks_formatText label)]
    exact ⟨isEven_element hopening hclosing hopens hcloses (isEven_formatText label),
      wellNested_formatText_iff label⟩

/-! ### Lines -/

/-- **The tags of a line nest** just if the runs of each of its running texts do. -/
theorem standard_line_wellNested_iff (footnotes : Entries Int) (line : Text) (h : '<' ∉ line) :
    WellNested (Converter.standard footnotes (.lines [line]))
      ↔ ∀ text ∈ runningTexts footnotes line,
          RunsNest Pass.all (Entity.escape false text) :=
  runsDecide_wellNested.good_renderLine_iff footnotes h

/-- Emphasis in strong text, and struck text in the label of a link. -/
theorem standard_line_wellNested_label :
    '<' ∉ "**a *b* c** [~~d~~](u)".toList
    ∧ WellNested (Converter.standard [] (.lines ["**a *b* c** [~~d~~](u)"])) := by
  have hline : '<' ∉ "**a *b* c** [~~d~~](u)".toList := by decide
  exact ⟨hline, (standard_line_wellNested_iff [] _ hline).mpr (by decide +kernel)⟩

/-- **Tags that cross**: a run ends at the first mark that can close it, so that the end of strong
text falls between that of the emphasis in it and its own. -/
theorem crossing_runs_not_wellNested :
    '<' ∉ "**a *b***".toList
    ∧ Converter.standard [] (.lines ["**a *b***"]) = "<strong>a <em>b</strong></em>".toList
    ∧ ¬ WellNested (Converter.standard [] (.lines ["**a *b***"])) := by
  decide +kernel

end BlockTree.Inline
