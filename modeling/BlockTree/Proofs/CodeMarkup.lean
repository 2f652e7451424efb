import BlockTree.Proofs.References
import BlockTree.Proofs.TightItems

/-!
Code blocks: what is shown of the code, in tight items as well, and of the classes.

* `renderBlock_code_of_bare`: without attributes the markup stays as it is written.
* `dropParagraphTags_bareCode`: there is no paragraph tag in code, so that a tight item keeps it.
* `renderBlock_tight_code`: the code in a tight item, and the text that is read back from it.
* `ShowsCode`: classes and code stand where they belong, and are read back.
* `renderBlock_code_classes`: the language and the prefixes are written as they are, and for which of
  them the markup shows the code.
-/

namespace BlockTree

open Entity (specials)

/-! ### Code without attributes -/

section

variable {ctx : Context} {head : Head}

/-- Code without attributes is written as it stands. -/
lemma renderBlock_code_of_bare (hnone : head.attributes.resolve ctx.readAttributes = .ok [])
    (lines : List Text) (language : Option Text) :
    Settles (renderBlock ctx (.code head lines language))
      (.ok (Rendered.part ⟨codeHtml language ctx.classPrefix lines, []⟩)) := by
  have hname : IsElementName "pre" := isElementName_of_mem _ (by decide)
  obtain ⟨body, hbody⟩ : ∃ body, codeHtml language ctx.classPrefix lines = tagged "pre" body :=
    ⟨_, rfl⟩
  rw [renderBlock, Context.code, hbody]
  exact leaf_settles_of_accepted hnone hname body

end

/-- The markup of code without a language. -/
def bareCodeHtml (lines : List Text) : Text :=
  "<pre><code>" ++ Entity.escape true (Text.join "\n" lines) ++ "</code></pre>\n"

lemma codeHtml_of_no_language {language : Option Text} (h : language.getD [] = [])
    (classPrefix : Option Text) (lines : List Text) :
    codeHtml language classPrefix lines = bareCodeHtml lines := by
  rw [codeHtml_eq h, Entity.escape_every_join]
  unfold bareCodeHtml
  generalize Entity.escape true (Text.join "\n" lines) = shown
  simp [elementHtml, tagged]

lemma decode_escape (text : Text) : specials.decode (Entity.escape true text) = text := by
  rw [Entity.escape_every_eq_encode, specials.decode_encode]

lemma notMem_escape {c : Char} (hc : Entity.isInert c = false) (every : Bool) (text : Text) :
    c ∉ Entity.escape every text := by
  intro hmem
  rw [Entity.isInert_of_mem_escape hmem] at hc
  cases hc

/-- A tag that is no paragraph tag is kept. -/
lemma dropParagraphTags_kept {tag : Text} (htag : ∀ c ∈ tag, Inline.Span.isTagChar c = true)
    (hname : isParagraphTag tag = false) (after : Text) :
    dropParagraphTags (tagged tag after) = tagged tag (dropParagraphTags after) := by
  rw [dropParagraphTags_tagged htag, hname, if_neg Bool.false_ne_true]

/-- **Code has no paragraph tags**: no `<` is left of its text, and its own tags have other names. -/
lemma dropParagraphTags_bareCode (lines : List Text) :
    dropParagraphTags (bareCodeHtml lines) = bareCodeHtml lines := by
  have hclosed : '<' ∉ Entity.escape true (Text.join "\n" lines) := notMem_escape rfl _ _
  have hmarkup : bareCodeHtml lines
      = tagged "pre" (tagged "code" (Entity.escape true (Text.join "\n" lines)
          ++ tagged "/code" (tagged "/pre" ['\n']))) := by
    unfold bareCodeHtml
    generalize Entity.escape true (Text.join "\n" lines) = shown
    simp [tagged]
  rw [hmarkup, dropParagraphTags_kept (by decide) (by decide),
    dropParagraphTags_kept (by decide) (by decide), dropParagraphTags_append hclosed,
    dropParagraphTags_kept (by decide) (by decide), dropParagraphTags_kept (by decide) (by decide),
    dropParagraphTags_eq_self (by decide)]

/-- The text of code is found between the tags in one way only. -/
lemma eq_of_bareCode_split {shown front between back : Text} (hshown : '<' ∉ shown)
    (h : "<pre><code>".toList ++ shown ++ "</code></pre>\n"
      = front ++ "<pre><code>" ++ between ++ "</code></pre>" ++ back) :
    between = shown := by
  have hopening : List.count '<' "<pre><code>".toList = 2 := by decide
  have hclosing : List.count '<' "</code></pre>".toList = 2 := by decide
  have hend : List.count '<' "</code></pre>\n".toList = 2 := by decide
  have hcount := congrArg (List.count '<') h
  simp only [List.count_append, hopening, hclosing, hend,
    List.count_eq_zero_of_not_mem hshown] at hcount
  have hfront : '<' ∉ front := List.count_eq_zero.mp (by omega)
  have hbetween : '<' ∉ between := List.count_eq_zero.mp (by omega)
  obtain rfl : front = [] := by
    cases front with
    | nil => rfl
    | cons c front =>
        have hfirst : '<' = c := by simpa using congrArg List.head? h
        exact absurd List.mem_cons_self (hfirst ▸ hfront)
  have hrest : shown ++ '<' :: "/code></pre>\n".toList
      = between ++ '<' :: ("/code></pre>".toList ++ back) := by
    simpa using h
  have hcut := congrArg (Text.cut? '<') hrest
  rw [Text.cut?_append hshown, Text.cut?_append hbetween] at hcut
  exact (Prod.mk_inj.mp (Option.some.inj hcut)).1.symm

/-- **Code in a tight item** without a language and attributes: the item shows the markup of the code
as it is, which is the same as in a loose item. What stands between the tags, however these are found
in it, is read back as the lines. -/
theorem renderBlock_tight_code (ctx : Context) (hdispatch : ctx.dispatch.Exhaustive)
    {head codeHead : Head} (kind : ListKind) (lines : List Text) {language : Option Text}
    {own : Attributes} (hown : head.attributes.resolve ctx.readAttributes = .ok own)
    (hnone : codeHead.attributes.resolve ctx.readAttributes = .ok [])
    (hlanguage : language.getD [] = []) (s : Journal) :
    renderBlock ctx (.code codeHead lines language) s = (.ok ⟨.text (bareCodeHtml lines), []⟩, s)
    ∧ (∀ spaced, renderBlock ctx (.item head kind [.code codeHead lines language] spaced) s
      = (.ok ⟨.text ("<li" ++ Attributes.inTag own ++ ">" ++ bareCodeHtml lines ++ "</li>\n"), []⟩, s))
    ∧ ∀ front between back,
      bareCodeHtml lines = front ++ "<pre><code>" ++ between ++ "</code></pre>" ++ back →
      specials.decode between = Text.join "\n" lines := by
  have hcode := renderBlock_code_of_bare hnone lines language
  rw [codeHtml_of_no_language hlanguage] at hcode
  refine ⟨hcode s, fun spaced => ?_, fun front between back h => ?_⟩
  · have hblocks := renderBlocks_singleton hdispatch hcode s
    have hshown : ∀ tight, shownInItem tight (bareCodeHtml lines) = bareCodeHtml lines := by
      intro tight
      cases tight with
      | false => rfl
      | true => exact dropParagraphTags_bareCode lines
    rw [renderBlock_item_of_blocks hown kind spaced hblocks, hshown]
  · have hclosed : '<' ∉ Entity.escape true (Text.join "\n" lines) := notMem_escape rfl _ _
    rw [eq_of_bareCode_split hclosed h, decode_escape]

/-- Parts of paragraph tags in the lines of code. -/
theorem renderBlock_tight_code_paragraphs :
    renderBlock {} (.item { attributes := .written "#a" } .bulleted
        [.code {} ["<p>", "</p", "<p x>&lt;"] none] false) []
      = (.ok ⟨.text ("<li id=\"a\"><pre><code>&lt;p&gt;\n&lt;/p\n&lt;p x&gt;&amp;lt;</code></pre>\n"
          ++ "</li>\n"), []⟩, [])
    ∧ specials.decode "&lt;p&gt;\n&lt;/p\n&lt;p x&gt;&amp;lt;" = "<p>\n</p\n<p x>&lt;".toList := by
  have hown : Attributes.Spec.resolve Attributes.readList
      ({ attributes := .written "#a" } : Head).attributes = .ok [("id", ["a"])] := by
    decide +kernel
  have hnone : Attributes.Spec.resolve Attributes.readList ({} : Head).attributes = .ok [] := rfl
  have hlanguage : Option.getD (none : Option Text) [] = [] := rfl
  obtain ⟨-, hitem, hbetween⟩ := renderBlock_tight_code {} Dispatch.inOrder_sequential.exhaustive
    .bulleted ["<p>", "</p", "<p x>&lt;"] hown hnone hlanguage []
  have hmarkup : bareCodeHtml ["<p>", "</p", "<p x>&lt;"]
      = "<pre><code>&lt;p&gt;\n&lt;/p\n&lt;p x&gt;&amp;lt;</code></pre>\n" := by
    decide +kernel
  refine ⟨?_, (hbetween [] _ ['\n'] hmarkup).trans (by decide)⟩
  rw [hitem false, hmarkup]
  exact Prod.ext (by decide +kernel) rfl

/-! ### Classes of code -/

/-- The characters that end a quoted value, or begin or end a tag. -/
def delimiters : List Char :=
  ['<', '>', '"']

/-- Nothing of escaped code ends the element. -/
lemma forall_mem_escape (code : Text) : ∀ c ∈ Entity.escape true code, c ∉ delimiters := by
  intro c hc hmem
  have hinert : ∀ d ∈ delimiters, Entity.isInert d = false := by decide
  exact notMem_escape (hinert c hmem) true code hc

/-- **Markup that shows code in classes**: the classes stand in the attribute and the code between the
tags, written without characters that end either, and both are read back. -/
def ShowsCode (html classes code : Text) : Prop :=
  ∃ value shown, html = "<pre><code class=\"" ++ value ++ "\">" ++ shown ++ "</code></pre>\n"
    ∧ (∀ c ∈ value, c ∉ delimiters) ∧ (∀ c ∈ shown, c ∉ delimiters)
    ∧ specials.decode value = classes ∧ specials.decode shown = code

/-- The value of the attribute is found in one way only, if there are no delimiters in it or in the
code. -/
lemma eq_of_classes_split {value shown written code : Text} (hvalue : '"' ∉ value)
    (hshown : '"' ∉ shown) (hcode : '"' ∉ code)
    (h : "<pre><code class=\"".toList ++ written ++ "\">" ++ code ++ "</code></pre>\n"
      = "<pre><code class=\"".toList ++ value ++ "\">" ++ shown ++ "</code></pre>\n") :
    written = value := by
  have hcount := congrArg (List.count '"') h
  have hopening : List.count '"' "<pre><code class=\"".toList = 1 := by decide
  have hquote : List.count '"' "\">".toList = 1 := by decide
  have hclosing : List.count '"' "</code></pre>\n".toList = 0 := by decide
  simp only [List.count_append, hopening, hquote, hclosing, List.count_eq_zero_of_not_mem hvalue,
    List.count_eq_zero_of_not_mem hshown, List.count_eq_zero_of_not_mem hcode] at hcount
  have hwritten : '"' ∉ written := List.count_eq_zero.mp (by omega)
  have hrest : written ++ '"' :: ('>' :: (code ++ "</code></pre>\n"))
      = value ++ '"' :: ('>' :: (shown ++ "</code></pre>\n")) := by
    simpa using h
  have hcut := congrArg (Text.cut? '"') hrest
  rw [Text.cut?_append hwritten, Text.cut?_append hvalue] at hcut
  exact (Prod.mk_inj.mp (Option.some.inj hcut)).1

/-- The markup of code in a language. -/
lemma codeHtml_of_language {language : Text} (h : language ≠ []) (classPrefix : Option Text)
    (lines : List Text) :
    codeHtml (some language) classPrefix lines
      = "<pre><code class=\"" ++ codeClasses language classPrefix ++ "\">"
        ++ Entity.escape true (Text.join "\n" lines) ++ "</code></pre>\n" := by
  have hempty : language.isEmpty = false := List.isEmpty_eq_false_iff.mpr h
  unfold codeHtml
  rw [codeClassAttribute, hempty, if_neg Bool.false_ne_true, Entity.escape_every_join]
  generalize Entity.escape true (Text.join "\n" lines) = shown
  simp

/-- The classes consist of the characters of the language and of the prefixes, and blanks. -/
lemma forall_mem_codeClasses (language : Text) (classPrefix : Option Text) :
    (∀ c ∈ codeClasses language classPrefix, c ∉ delimiters)
      ↔ (∀ c ∈ language, c ∉ delimiters)
        ∧ ∀ lead ∈ Text.words (classPrefix.getD []), ∀ c ∈ lead, c ∉ delimiters := by
  have hblank : ∀ c ∈ " ".toList, c ∉ delimiters := by decide
  rw [codeClasses, Text.forall_mem_join hblank, List.forall_mem_map, List.forall_mem_cons,
    List.nil_append]
  refine and_congr_right fun hlanguage => forall₂_congr fun lead _ => ?_
  rw [List.forall_mem_append]
  exact and_iff_left hlanguage

/-- **When code is shown in its classes**: nothing in them is escaped, so they hold no delimiters and
nothing that is read as a reference. -/
lemma showsCode_iff (classes code : Text) :
    ShowsCode ("<pre><code class=\"" ++ classes ++ "\">" ++ Entity.escape true code
        ++ "</code></pre>\n") classes code
      ↔ (∀ c ∈ classes, c ∉ delimiters) ∧ ∀ entry ∈ specials.entries, ¬ entry.2 <:+: classes := by
  have hread : specials.decode classes = classes
      ↔ ∀ entry ∈ specials.entries, ¬ entry.2 <:+: classes :=
    specials.decode_eq_self_iff (by decide)
  have hshown := forall_mem_escape code
  have hquote : '"' ∈ delimiters := by decide
  constructor
  · rintro ⟨value, shown, h, hvalue, hcode, hclasses, -⟩
    obtain rfl := eq_of_classes_split (fun hmem => hvalue _ hmem hquote)
      (fun hmem => hcode _ hmem hquote) (fun hmem => hshown _ hmem hquote) h
    exact ⟨hvalue, hread.mp hclasses⟩
  · rintro ⟨hplain, hnone⟩
    exact ⟨classes, Entity.escape true code, rfl, hplain, hshown, hread.mpr hnone,
      decode_escape code⟩

/-- **The classes of code**: the language, and behind each of the prefixes. They are written as they
are, while the lines are escaped. So the markup shows the code in its classes exactly if neither the
language nor a prefix holds a delimiter, and the classes hold nothing that is read as a reference. -/
theorem renderBlock_code_classes (ctx : Context) {head : Head} (lines : List Text) {language : Text}
    (hlanguage : language ≠ []) (hnone : head.attributes.resolve ctx.readAttributes = .ok [])
    (s : Journal) :
    ∃ html, renderBlock ctx (.code head lines (some language)) s = (.ok ⟨.text html, []⟩, s)
      ∧ html = "<pre><code class=\"" ++ codeClasses language ctx.classPrefix ++ "\">"
          ++ Entity.escape true (Text.join "\n" lines) ++ "</code></pre>\n"
      ∧ codeClasses language ctx.classPrefix
          = Text.join " " (language :: (Text.words (ctx.classPrefix.getD [])).map (· ++ language))
      ∧ (∀ c ∈ Entity.escape true (Text.join "\n" lines), c ∉ delimiters)
      ∧ specials.decode (Entity.escape true (Text.join "\n" lines)) = Text.join "\n" lines
      ∧ (ShowsCode html (codeClasses language ctx.classPrefix) (Text.join "\n" lines)
        ↔ ((∀ c ∈ language, c ∉ delimiters)
            ∧ ∀ lead ∈ Text.words (ctx.classPrefix.getD []), ∀ c ∈ lead, c ∉ delimiters)
          ∧ ∀ entry ∈ specials.entries,
            ¬ entry.2 <:+: codeClasses language ctx.classPrefix) := by
  refine ⟨_, renderBlock_code_of_bare hnone lines (some language) s,
    codeHtml_of_language hlanguage _ _, rfl, forall_mem_escape _, decode_escape _, ?_⟩
  rw [codeHtml_of_language hlanguage, showsCode_iff, forall_mem_codeClasses]

/-- A language with two prefixes. -/
theorem renderBlock_code_classes_elixir :
    ∃ html, renderBlock { classPrefix := some "lang- language-" }
        (.code {} ["x < y"] (some "elixir")) [] = (.ok ⟨.text html, []⟩, [])
      ∧ html = "<pre><code class=\"elixir lang-elixir language-elixir\">x &lt; y</code></pre>\n"
      ∧ ShowsCode html "elixir lang-elixir language-elixir" "x < y" := by
  have hnone : Attributes.Spec.resolve Attributes.readList ({} : Head).attributes = .ok [] := rfl
  obtain ⟨html, hrender, hhtml, -, -, -, hshows⟩ :=
    renderBlock_code_classes { classPrefix := some "lang- language-" } ["x < y"]
      (show "elixir".toList ≠ [] by decide) hnone []
  have hclasses : codeClasses "elixir" (some "lang- language-")
      = "elixir lang-elixir language-elixir" := by
    decide +kernel
  have hwords : Text.words "lang- language-" = ["lang-".toList, "language-".toList] := by
    decide +kernel
  have hjoined : Text.join "\n" ["x < y".toList] = "x < y" := rfl
  simp only [hclasses, hwords, hjoined, Option.getD_some] at hhtml hshows
  exact ⟨html, hrender, hhtml.trans (by decide +kernel), hshows.mpr (by decide)⟩

/-- **A quotation mark in a language** ends the attribute, and an element follows. -/
theorem code_with_tag_in_language :
    renderBlock {} (.code {} ["x"] (some "\"><b>")) []
      = (.ok ⟨.text "<pre><code class=\"\"><b>\">x</code></pre>\n", []⟩, [])
    ∧ ∀ classes code,
      ¬ ShowsCode "<pre><code class=\"\"><b>\">x</code></pre>\n" classes code := by
  refine ⟨Prod.ext (by decide +kernel) (by decide +kernel), fun classes code => ?_⟩
  rintro ⟨value, shown, h, hvalue, hshown, -⟩
  have hopen : '<' ∈ delimiters := by decide
  have hcount := congrArg (List.count '<') h
  simp only [List.count_append, List.count_eq_zero_of_not_mem fun hmem => hvalue _ hmem hopen,
    List.count_eq_zero_of_not_mem fun hmem => hshown _ hmem hopen] at hcount
  exact absurd hcount (by decide)

end BlockTree
