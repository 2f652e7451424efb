import BlockTree.Proofs.SealedText

/-!
Complete spans, and the lines that hold one.

* `IsCodeBody`: what can stand between two runs of so many backticks; `Span.read?_code`: between them
  it is read as code, whatever follows.
* `CompleteSpan`: the written spans, each with the markup that it stands for.
* `CompleteSpan.exists_span`: a complete span is read whole, so that nothing that follows makes it
  longer, shorter or a span of another kind.
* `renderLine_complete`: so plain text, a complete span and the rest of a line are converted each on
  its own.
-/

namespace BlockTree.Inline

/-! ### Code -/

/-- **The body of a code span** between runs of so many backticks: it is not empty, has no line feed,
no backtick at either end, and no such run inside. -/
structure IsCodeBody (count : Nat) (body : Text) : Prop where
  ne_nil : body ≠ []
  feed_notMem : '\n' ∉ body
  head : body.head? ≠ some '\x60'
  last : body.getLast? ≠ some '\x60'
  unbroken : ¬ ticks count <:+: body

/-- A body goes up to the first place where a closing is found. -/
lemma body?_of_first {closes : Text → Option Text} {body rest after : Text} (hne : body ≠ [])
    (hfeed : '\n' ∉ body) (hcloses : closes rest = some after)
    (hfirst : ∀ back, back <:+ body → back ≠ [] → closes (back ++ rest) = none) :
    body? closes (body ++ rest) = some (body, after) := by
  induction body with
  | nil => exact absurd rfl hne
  | cons c body ih =>
      rw [List.mem_cons, not_or] at hfeed
      rw [List.cons_append, body?, if_neg (Ne.symm hfeed.1)]
      cases body with
      | nil => rw [List.nil_append, hcloses]
      | cons d body =>
          have hshorter : ∀ back, back <:+ d :: body → back ≠ [] → closes (back ++ rest) = none :=
            fun back hsuffix => hfirst back (hsuffix.trans (List.suffix_cons c _))
          rw [hshorter _ List.suffix_rfl (List.cons_ne_nil d body),
            ih (List.cons_ne_nil d body) hfeed.2 hshorter]
          rfl

namespace IsCodeBody

variable {count : Nat} {body : Text} (h : IsCodeBody count body)
include h

/-- No part of the body begins a run of backticks that closes the span. -/
lemma after?_eq_none {back : Text} (hsuffix : back <:+ body) (hne : back ≠ []) (rest : Text) :
    (back ++ (ticks count ++ rest)).after? (ticks count) = none := by
  rw [Option.eq_none_iff_forall_ne_some]
  intro after hafter
  rcases List.append_eq_append_iff.mp (Text.after?_eq_some.mp hafter) with
    ⟨more, hticks, -⟩ | ⟨more, hback, -⟩
  · -- The part would consist of backticks, and it ends where the body does.
    have hmem : back.getLast hne ∈ ticks count := by
      rw [hticks]
      exact List.mem_append_left _ (List.getLast_mem hne)
    obtain ⟨front, rfl⟩ := hsuffix
    refine h.last ?_
    rw [List.getLast?_append_of_ne_nil _ hne, List.getLast?_eq_some_getLast hne,
      List.eq_of_mem_replicate hmem]
  · refine h.unbroken (List.IsInfix.trans ?_ hsuffix.isInfix)
    rw [hback]
    exact (List.prefix_append _ _).isInfix

/-- Between its runs of backticks the body is read as code. -/
lemma readCode?_append (rest : Text) :
    Span.readCode? (ticks count ++ (body ++ (ticks count ++ rest))) count
      = some (.code count body, rest) := by
  cases count with
  | zero => exact absurd List.nil_infix h.unbroken
  | succ n =>
      have hbody : body? (Text.after? · (ticks (n + 1))) (body ++ (ticks (n + 1) ++ rest))
          = some (body, rest) :=
        body?_of_first h.ne_nil h.feed_notMem (Text.after?_eq_some.mpr rfl)
          fun back hsuffix hback => h.after?_eq_none hsuffix hback rest
      rw [Span.readCode?, Text.after?_eq_some.mpr rfl, Option.bind_some, hbody]

/-- The longest run of backticks at the start of the span is the one in front of the body. -/
lemma takeWhile_ticks (rest : Text) :
    (ticks count ++ (body ++ rest)).takeWhile (· = '\x60') = ticks count := by
  obtain ⟨c, body, rfl⟩ := List.exists_cons_of_ne_nil h.ne_nil
  have hticks : ∀ d ∈ ticks count, decide (d = '\x60') = true := fun d hd =>
    decide_eq_true (List.eq_of_mem_replicate hd)
  have hc : decide (c = '\x60') = false := decide_eq_false fun hc => h.head (by rw [hc]; rfl)
  exact Text.takeWhile_run hticks hc (body ++ rest)

end IsCodeBody

/-- **Code is read where it is written**: readers of code come first, and try the longest runs of
backticks first. -/
lemma Span.read?_code {count : Nat} {body : Text} (h : IsCodeBody count body) (rest : Text) :
    read? (source (.code count body) ++ rest) = some (.code count body, rest) := by
  have hsource : source (.code count body) ++ rest
      = ticks count ++ (body ++ (ticks count ++ rest)) := by
    simp [source]
  have hlength : ((source (.code count body) ++ rest).takeWhile (· = '\x60')).length = count := by
    rw [hsource, h.takeWhile_ticks, ticks, List.length_replicate]
  have hcode := h.readCode?_append rest
  rw [← hsource] at hcode
  rw [read?, readers, List.findSome?_cons]
  simp only [hlength, hcode]

/-! ### Complete spans -/

/-- **A complete span** and its markup. What a label holds is running text, and so is the reference
to a footnote that is not known; all else is escaped, and a tag stays as it is. -/
inductive CompleteSpan (footnotes : Entries Int) : Text → Text → Prop where
  | code {count : Nat} {body : Text} : IsCodeBody count body →
      CompleteSpan footnotes (ticks count ++ body ++ ticks count)
        (Markup.code (Entity.escape true (Text.trim Text.isBlank body)))
  | tag {inside : Text} : IsWrittenTag inside →
      CompleteSpan footnotes (tagged inside []) (tagged inside [])
  | image {alternative path : Text} {title : Option Title} : ']' ∉ alternative →
      IsTarget path title →
      CompleteSpan footnotes ("![" ++ alternative ++ "](" ++ path ++ Title.source title ++ ")")
        (Markup.image (Entity.escape false path) (Entity.escape false alternative)
          (title.map fun t => Entity.escape false t.words))
  | link {label address : Text} {title : Option Title} : label ≠ [] → label.head? ≠ some '^' →
      ']' ∉ label → IsTarget address title →
      CompleteSpan footnotes ("[" ++ label ++ "](" ++ address ++ Title.source title ++ ")")
        (Markup.link (Entity.escape false address) (formatText label)
          (title.map fun t => Entity.escape false t.words))
  | note {id : Text} {number : Int} : id ≠ [] → ']' ∉ id → footnotes.find? id = some number →
      CompleteSpan footnotes ("[^" ++ id ++ "]")
        (Markup.footnoteReference (Markup.noteId number) (Markup.referenceId number) number)
  | unknownNote {id : Text} : id ≠ [] → ']' ∉ id → footnotes.find? id = none →
      CompleteSpan footnotes ("[^" ++ id ++ "]") (formatText ("[^" ++ id ++ "]"))

/-- **A complete span is read whole**, whatever follows it, and becomes its markup. -/
lemma CompleteSpan.exists_span {footnotes : Entries Int} {source markup : Text}
    (h : CompleteSpan footnotes source markup) :
    ∃ span : Span, (∀ rest, Span.read? (source ++ rest) = some (span, rest))
      ∧ renderSpan footnotes span = markup ∧ ∀ words, span ≠ .running words := by
  cases h with
  | code hbody => exact ⟨_, Span.read?_code hbody, rfl, nofun⟩
  | tag hinside => exact ⟨.tag _, Span.read?_of_isTag ⟨_, rfl, hinside⟩, rfl, nofun⟩
  | image halternative htarget =>
      exact ⟨_, Span.read?_of_isImage ⟨_, _, _, rfl, halternative, htarget⟩, rfl, nofun⟩
  | link hne hhead hlabel htarget =>
      exact ⟨_, Span.read?_of_isLink ⟨_, _, _, rfl, hne, hlabel, htarget⟩ hhead, rfl, nofun⟩
  | note hne hid hnumber =>
      refine ⟨.note _, Span.read?_of_isNote ⟨_, rfl, hne, hid⟩, ?_, nofun⟩
      rw [renderSpan, hnumber]
  | unknownNote hne hid hnumber =>
      refine ⟨.note _, Span.read?_of_isNote ⟨_, rfl, hne, hid⟩, ?_, nofun⟩
      rw [renderSpan, hnumber]
      rfl

/-! ### Lines -/

/-- Running text in front of spans of which the first is no running text. -/
lemma flatMap_foldr_consText (footnotes : Entries Int) (words : Text) {span : Span}
    (hspan : ∀ words, span ≠ .running words) (parts : List Span) :
    (words.foldr consText (span :: parts)).flatMap (renderSpan footnotes)
      = formatText words ++ (span :: parts).flatMap (renderSpan footnotes) := by
  have hwords : ∀ c words, (c :: words).foldr consText (span :: parts)
      = .running (c :: words) :: span :: parts := by
    intro c words
    induction words generalizing c with
    | nil =>
        cases span with
        | running words => exact absurd rfl (hspan words)
        | _ => rfl
    | cons d words ih => rw [List.foldr_cons, ih, consText]
  cases words with
  | nil => rw [List.foldr_nil, formatText_nil, List.nil_append]
  | cons c words => rw [hwords, List.flatMap_cons, renderSpan]

/-- **A complete span in a line**: the plain text in front of it, the span and the rest of the line
are converted each on its own. If the span refers to a footnote whose number has more than
`Text.digitLimit` digits, or a span in the rest does, then neither the line nor that part of it is
converted: both stop at the number with the same value error. -/
theorem renderLine_complete (footnotes : Entries Int) {front source markup : Text}
    (hfront : ∀ c ∈ front, Span.isOpening c = false) (hspan : CompleteSpan footnotes source markup)
    (back : Text) :
    renderLine footnotes (front ++ source ++ back)
      = formatText front ++ markup ++ renderLine footnotes back := by
  obtain ⟨span, hread, rfl, hrunning⟩ := hspan.exists_span
  rw [renderLine, List.append_assoc, spans_plain_append hfront, spans_of_read? (hread back),
    flatMap_foldr_consText footnotes front hrunning, List.flatMap_cons, ← renderLine,
    List.append_assoc]

/-- A code span with a backtick in it, and another one directly behind it. -/
theorem renderLine_complete_ticks :
    (∀ c ∈ "so *x* ".toList, Span.isOpening c = false)
    ∧ CompleteSpan [] "``a`b``" (Markup.code "a`b")
    ∧ renderLine [] ("so *x* " ++ "``a`b``" ++ "`c`")
      = "so <em>x</em> ".toList ++ Markup.code "a`b" ++ Markup.code "c" := by
  have hfront : ∀ c ∈ "so *x* ".toList, Span.isOpening c = false := by decide
  have hbody : IsCodeBody 2 "a`b" :=
    ⟨by decide, by decide, by decide, by decide, by decide⟩
  have hspan : CompleteSpan [] "``a`b``" (Markup.code "a`b") := .code hbody
  refine ⟨hfront, hspan, (renderLine_complete [] hfront hspan "`c`").trans ?_⟩
  decide +kernel

end BlockTree.Inline
