import BlockTree.Proofs.FirstFault
import BlockTree.Proofs.KeptReferences
import BlockTree.Proofs.SpanGrammar

/-!
Text that nothing in front of it reaches into.

* `IsSealed`: a text that begins with a reference, holds no marks of spans, and has a tag opened by
  its first angle bracket.
* `IsSealed.read?_append`: a span that is read in front of a sealed text is the one that is read
  there alone; so the spans of a line with a sealed text behind it are the spans of the two, put
  together (`IsSealed.spans_append`).
* `Pass.wrapRuns_append` and `formatText_append`: the passes of emphasis leave a reference behind a
  text as it is, and what is in front of it as well.
* `renderLine_append`: so the conversion of a line does not see a sealed text behind it.
-/

namespace BlockTree

/-! ### Reading in front of a text -/

namespace Text

/-- A lead whose characters do not occur in a text is not found across its beginning. -/
lemma after?_append {lead tail : Text} (h : ∀ c ∈ lead, c ∉ tail) (text : Text) :
    (text ++ tail).after? lead = (text.after? lead).map (· ++ tail) := by
  induction lead generalizing text with
  | nil => cases text <;> simp [after?]
  | cons l lead ih =>
      rw [List.forall_mem_cons] at h
      cases text with
      | nil =>
          cases tail with
          | nil => rfl
          | cons c tail =>
              have hne : c ≠ l := fun hc => h.1 (hc ▸ List.mem_cons_self)
              simp only [List.nil_append, after?, if_neg hne, Option.map_none]
      | cons c text =>
          rw [List.cons_append, after?, after?]
          split
          · exact ih h.2 text
          · rfl

/-- A lead is not found at the end of a text in which one of its characters does not occur. -/
lemma after?_eq_none_of_suffix {lead tail : Text} (hne : lead ≠ []) (h : ∀ c ∈ lead, c ∉ tail)
    {text : Text} (hsuffix : text <:+ tail) : text.after? lead = none := by
  rw [Option.eq_none_iff_forall_ne_some]
  intro after hsome
  obtain ⟨c, hc⟩ := List.exists_mem_of_ne_nil lead hne
  refine h c hc (hsuffix.mem ?_)
  rw [after?_eq_some.mp hsome]
  exact List.mem_append_left _ hc

lemma takeWhile_append_of_head? {p : Char → Bool} {tail : Text} (h : ∀ c ∈ tail.head?, p c = false)
    (text : Text) : (text ++ tail).takeWhile p = text.takeWhile p := by
  induction text with
  | nil =>
      cases tail with
      | nil => rfl
      | cons c tail => exact List.takeWhile_cons_of_neg (by simp [h c rfl])
  | cons c text ih => rw [List.cons_append, List.takeWhile_cons, List.takeWhile_cons, ih]

end Text

namespace Inline

open Inline.Span (isTagChar)

/-- A closing that is found in front of a text or not at all gives bodies in front of it. -/
lemma body?_append {closes : Text → Option Text} {tail : Text}
    (h : ∀ text, closes (text ++ tail) = (closes text).map (· ++ tail))
    (htail : ∀ text, text <:+ tail → closes text = none) (text : Text) :
    body? closes (text ++ tail)
      = (body? closes text).map fun (body, after) => (body, after ++ tail) := by
  have hnone : ∀ text, text <:+ tail → body? closes text = none := by
    intro text hsuffix
    induction text with
    | nil => rfl
    | cons c rest ih =>
        have hrest := (List.suffix_cons c rest).trans hsuffix
        rw [body?, htail rest hrest, ih hrest]
        split <;> rfl
  induction text with
  | nil =>
      rw [List.nil_append, hnone tail List.suffix_rfl]
      rfl
  | cons c rest ih =>
      rw [List.cons_append, body?, body?, h rest, ih]
      split
      · rfl
      · cases closes rest with
        | some after => rfl
        | none =>
            rw [Option.map_none, Option.map_map, Option.map_map]
            rfl

/-! ### Sealed texts -/

/-- The characters that open, divide and close spans other than tags. -/
def isSpanMark (c : Char) : Bool :=
  "\x60![]^()".toList.contains c

/-- **A sealed text**: it begins with a reference, holds no marks of spans, and its first angle
bracket opens a tag. -/
structure IsSealed (tail : Text) : Prop where
  head : tail.head? = some '&'
  unmarked : ∀ c ∈ tail, isSpanMark c = false
  angle : (tail.dropWhile isTagChar).head? ≠ some '>'

namespace Span

/-- **A span ends in front of a text** that follows where it begins: whatever part of it is in front
of the text, no other part is the beginning of the text. -/
def EndsBefore (span : Span) (tail : Text) : Prop :=
  ∀ front back after, span.source = front ++ back → front ≠ [] → tail = back ++ after → back = []

/-- A span whose last character is a mark ends in front of a text without marks. -/
lemma endsBefore_of_notMem {span : Span} {words tail : Text} {mark : Char}
    (hlast : span.source = words ++ [mark]) (hmark : mark ∉ tail) : span.EndsBefore tail := by
  intro front back after hsource _ htail
  by_contra hne
  rw [hlast, ← List.dropLast_append_getLast hne, ← List.append_assoc] at hsource
  have heq : [mark] = [back.getLast hne] := (List.append_inj' hsource rfl).2
  refine hmark ?_
  rw [htail, (List.cons.inj heq).1]
  exact List.mem_append_left _ (List.getLast_mem hne)

/-- A reader that reads exactly the written forms of its spans, all of which end in front of a text,
does not see that the text follows. -/
lemma reader_append {reader : Text → Option (Span × Text)} {Legal : Span → Prop} {tail : Text}
    (hiff : ∀ {text rest : Text} {span : Span}, reader text = some (span, rest)
      ↔ Legal span ∧ text = span.source ++ rest)
    (hends : ∀ span, Legal span → span.EndsBefore tail) {text : Text} (hne : text ≠ []) :
    reader (text ++ tail) = (reader text).map fun (span, after) => (span, after ++ tail) := by
  cases hread : reader (text ++ tail) with
  | none =>
      -- A span that is read in the text alone would be read with the other text behind it as well.
      cases hshort : reader text with
      | none => rfl
      | some found =>
          obtain ⟨hlegal, htext⟩ := hiff.mp hshort
          have hlong : reader (text ++ tail) = some (found.1, found.2 ++ tail) :=
            hiff.mpr ⟨hlegal, by rw [htext, List.append_assoc]⟩
          rw [hread] at hlong
          cases hlong
  | some found =>
      obtain ⟨span, after⟩ := found
      obtain ⟨hlegal, heq⟩ := hiff.mp hread
      rcases List.append_eq_append_iff.mp heq with ⟨back, hsource, htail⟩ | ⟨rest, htext, hafter⟩
      · obtain rfl := hends span hlegal text back after hsource hne htail
        rw [List.append_nil] at hsource
        have hshort : reader text = some (span, []) :=
          hiff.mpr ⟨hlegal, by rw [List.append_nil, hsource]⟩
        rw [hshort, htail]
        rfl
      · rw [hiff.mpr ⟨hlegal, htext⟩, hafter]
        rfl

end Span

namespace IsSealed

variable {tail : Text} (h : IsSealed tail)
include h

lemma notMem {c : Char} (hc : isSpanMark c = true) : c ∉ tail := by
  intro htail
  rw [h.unmarked c htail] at hc
  cases hc

lemma readCode?_append (text : Text) (n : Nat) :
    Span.readCode? (text ++ tail) n
      = (Span.readCode? text n).map fun (span, after) => (span, after ++ tail) := by
  induction n with
  | zero => rfl
  | succ n ih =>
      have hticks : ∀ c ∈ ticks (n + 1), c ∉ tail := fun c hc => by
        rw [List.eq_of_mem_replicate hc]
        exact h.notMem (by decide)
      have hafter := Text.after?_append hticks
      have hbody := body?_append hafter fun text hsuffix =>
        Text.after?_eq_none_of_suffix (List.cons_ne_nil _ _) hticks hsuffix
      have hbind : ((text ++ tail).after? (ticks (n + 1))).bind (body? (Text.after? · (ticks (n + 1))))
          = ((text.after? (ticks (n + 1))).bind (body? (Text.after? · (ticks (n + 1))))).map
              fun (body, after) => (body, after ++ tail) := by
        rw [hafter]
        cases text.after? (ticks (n + 1)) with
        | none => rfl
        | some inner => exact hbody inner
      rw [Span.readCode?, Span.readCode?, hbind, ih]
      cases (text.after? (ticks (n + 1))).bind (body? (Text.after? · (ticks (n + 1)))) with
      | none => rfl
      | some run => rfl

/-- A tag that begins in front of a sealed text ends there: else its end would be the first angle
bracket of the sealed text. -/
lemma endsBefore_of_isTag {span : Span} (hspan : span.IsTag) : span.EndsBefore tail := by
  obtain ⟨inside, rfl, slash, letter, name, rfl, hslash, hletter, hname⟩ := hspan
  have hchars : ∀ c ∈ slash ++ letter :: name, isTagChar c = true := by
    rw [List.forall_mem_append, List.forall_mem_cons]
    refine ⟨?_, isTagChar_of_isAlpha hletter, hname⟩
    rcases hslash with rfl | rfl <;> decide
  generalize slash ++ letter :: name = inside at hchars
  intro front back after hsource hfront htail
  by_contra hback
  obtain ⟨c, front, rfl⟩ := List.exists_cons_of_ne_nil hfront
  have hinside : inside ++ ['>'] = front ++ back := (List.cons.inj hsource).2
  rw [← List.dropLast_append_getLast hback, ← List.append_assoc] at hinside
  obtain ⟨hinner, hlast⟩ := List.append_inj' hinside rfl
  have hrun : ∀ c ∈ back.dropLast, isTagChar c = true := fun c hc =>
    hchars c (hinner ▸ List.mem_append_right front hc)
  have hbackEq : back.dropLast ++ ['>'] = back := by
    rw [hlast, List.dropLast_append_getLast]
  refine h.angle ?_
  rw [htail, ← hbackEq, List.append_assoc, List.singleton_append,
    Text.dropWhile_run hrun (by decide)]
  rfl

/-- **A span that is read in front of a sealed text** is the one that is read there alone. -/
lemma read?_append {text : Text} (hne : text ≠ []) :
    Span.read? (text ++ tail)
      = (Span.read? text).map fun (span, after) => (span, after ++ tail) := by
  have hticks : ∀ c ∈ tail.head?, decide (c = '\x60') = false := by
    intro c hc
    rw [h.head] at hc
    obtain rfl := Option.some.inj hc
    decide
  have hbracket : ']' ∉ tail := h.notMem (by decide)
  have hparen : ')' ∉ tail := h.notMem (by decide)
  have hnote : ∀ span : Span, span.IsNote → span.EndsBefore tail := by
    rintro span ⟨id, rfl, -⟩
    exact Span.endsBefore_of_notMem rfl hbracket
  have himage : ∀ span : Span, span.IsImage → span.EndsBefore tail := by
    rintro span ⟨alternative, path, title, rfl, -⟩
    exact Span.endsBefore_of_notMem rfl hparen
  have hlink : ∀ span : Span, span.IsLink → span.EndsBefore tail := by
    rintro span ⟨label, address, title, rfl, -⟩
    exact Span.endsBefore_of_notMem rfl hparen
  have hreader : ∀ reader ∈ Span.readers,
      reader (text ++ tail) = (reader text).map fun (span, after) => (span, after ++ tail) := by
    simp only [Span.readers, List.forall_mem_cons]
    refine ⟨?_, Span.reader_append Span.readTag?_iff (fun _ => h.endsBefore_of_isTag) hne,
      Span.reader_append Span.readImage?_iff himage hne,
      Span.reader_append Span.readNote?_iff hnote hne,
      Span.reader_append Span.readLink?_iff hlink hne, List.forall_mem_nil _⟩
    rw [Text.takeWhile_append_of_head? hticks]
    exact h.readCode?_append text _
  rw [Span.read?, Span.read?, findSome?_congr hreader]
  exact List.map_findSome?.symm

end IsSealed

/-! ### Lines -/

/-- The spans of two texts that follow each other: running text at the end of the first and at the
beginning of the second is one span. -/
inductive Abutting : List Span → List Span → List Span → Prop where
  | apart (front back : List Span) : Abutting front back (front ++ back)
  | joined (front back : List Span) (words more : Text) :
      Abutting (front ++ [.running words]) (.running more :: back)
        (front ++ .running (words ++ more) :: back)

lemma Abutting.cons {front back whole : List Span} (h : Abutting front back whole) (span : Span) :
    Abutting (span :: front) back (span :: whole) := by
  cases h with
  | apart => exact .apart (span :: front) back
  | joined front back words more => exact .joined (span :: front) back words more

lemma Abutting.consText {front back whole : List Span} (h : Abutting front back whole) (c : Char) :
    Abutting (consText c front) back (consText c whole) := by
  cases h with
  | apart =>
      cases front with
      | nil =>
          cases back with
          | nil => exact .apart _ []
          | cons span back =>
              cases span with
              | running words => exact .joined [] back [c] words
              | _ => exact .apart [.running [c]] _
      | cons span front => cases span <;> exact .apart _ back
  | joined front back words more =>
      cases front with
      | nil => exact .joined [] back (c :: words) more
      | cons span front =>
          cases span with
          | running first => exact .joined (.running (c :: first) :: front) back words more
          | _ => exact .joined (.running [c] :: _ :: front) back words more

/-- **The spans of a line** with a sealed text behind it. -/
lemma IsSealed.spans_append {tail : Text} (h : IsSealed tail) (text : Text) :
    Abutting (spans text) (spans tail) (spans (text ++ tail)) := by
  fun_induction spans text with
  | case1 => exact .apart [] _
  | case2 c rest span after hread ih =>
      have hlong := h.read?_append (List.cons_ne_nil c rest)
      rw [hread] at hlong
      rw [spans_of_read? hlong]
      exact ih.cons span
  | case3 c rest hread ih =>
      have hlong := h.read?_append (List.cons_ne_nil c rest)
      rw [hread] at hlong
      have hnone : Span.read? (c :: (rest ++ tail)) = none := hlong
      rw [List.cons_append, spans_of_read?_none hnone]
      exact ih.consText c

/-! ### Emphasis -/

/-- A text that begins with a run. -/
lemma segments_of_firstRun? {delimiters : List Delimiter} {before : Option Char}
    {text body after : Text} {d : Delimiter}
    (h : firstRun? delimiters before text = some (d, body, after)) :
    segments delimiters before text = .run d body :: segments delimiters d.mark.getLast? after := by
  cases text with
  | nil => exact absurd (firstRun?_length h) (Nat.not_lt_zero _)
  | cons c text =>
      rw [segments]
      split
      · rename_i hrun
        cases hrun.symm.trans h
        rfl
      · rename_i hrun
        cases hrun.symm.trans h

/-- A text that begins with a single character. -/
lemma segments_of_firstRun?_none {delimiters : List Delimiter} {before : Option Char} {c : Char}
    {rest : Text} (h : firstRun? delimiters before (c :: rest) = none) :
    segments delimiters before (c :: rest) = .plain c :: segments delimiters (some c) rest := by
  rw [segments]
  split
  · rename_i hrun
    cases hrun.symm.trans h
  · rfl

/-- **A text takes no part in runs**: it begins with no word character and holds no character of a
mark. -/
structure IsApart (delimiters : List Delimiter) (tail : Text) : Prop where
  head : ∀ c ∈ tail.head?, Text.isWord c = false
  ne_nil : ∀ d ∈ delimiters, d.mark ≠ []
  unmarked : ∀ d ∈ delimiters, ∀ c ∈ d.mark, c ∉ tail

namespace IsApart

variable {delimiters : List Delimiter} {tail : Text} (h : IsApart delimiters tail)
include h

lemma allows_append (d : Delimiter) (after : Text) :
    d.allows (after ++ tail).head? = d.allows after.head? := by
  cases after with
  | cons c after => rfl
  | nil =>
      cases tail with
      | nil => rfl
      | cons c tail => simp [Delimiter.allows, h.head c rfl]

lemma closes_append {d : Delimiter} (hd : d ∈ delimiters) (text : Text) :
    d.closes (text ++ tail) = (d.closes text).map (· ++ tail) := by
  rw [Delimiter.closes, Delimiter.closes, Text.after?_append (h.unmarked d hd)]
  cases text.after? d.mark with
  | none => rfl
  | some after =>
      rw [Option.map_some, Option.filter_some, Option.filter_some, h.allows_append]
      split <;> rfl

lemma closes_eq_none {d : Delimiter} (hd : d ∈ delimiters) {text : Text} (hsuffix : text <:+ tail) :
    d.closes text = none := by
  rw [Delimiter.closes, Text.after?_eq_none_of_suffix (h.ne_nil d hd) (h.unmarked d hd) hsuffix]
  rfl

lemma run?_append {d : Delimiter} (hd : d ∈ delimiters) (before : Option Char) (text : Text) :
    d.run? before (text ++ tail)
      = (d.run? before text).map fun (body, after) => (body, after ++ tail) := by
  rw [Delimiter.run?, Delimiter.run?]
  split
  · rw [Text.after?_append (h.unmarked d hd)]
    cases text.after? d.mark with
    | none => rfl
    | some inner =>
        exact body?_append (h.closes_append hd) (fun _ => h.closes_eq_none hd) inner
  · rfl

lemma firstRun?_append (before : Option Char) (text : Text) :
    firstRun? delimiters before (text ++ tail)
      = (firstRun? delimiters before text).map fun (d, body, after) =>
          (d, body, after ++ tail) := by
  have hrun : ∀ d ∈ delimiters, (d.run? before (text ++ tail)).map (d, ·)
      = ((d.run? before text).map (d, ·)).map fun (d, body, after) => (d, body, after ++ tail) := by
    intro d hd
    rw [h.run?_append hd, Option.map_map, Option.map_map]
    rfl
  rw [firstRun?, firstRun?, findSome?_congr hrun]
  exact List.map_findSome?.symm

/-- No run begins in the text itself. -/
lemma firstRun?_eq_none (before : Option Char) {text : Text} (hsuffix : text <:+ tail) :
    firstRun? delimiters before text = none := by
  rw [firstRun?, List.findSome?_eq_none_iff]
  intro d hd
  rw [Delimiter.run?,
    Text.after?_eq_none_of_suffix (h.ne_nil d hd) (h.unmarked d hd) hsuffix]
  split <;> rfl

/-- **The segments of a text** with another one behind it that takes no part in runs. -/
lemma segments_append (before : Option Char) (text : Text) :
    segments delimiters before (text ++ tail)
      = segments delimiters before text ++ tail.map Segment.plain := by
  have hplain : ∀ before text, text <:+ tail →
      segments delimiters before text = text.map Segment.plain := by
    intro before text hsuffix
    fun_induction segments delimiters before text with
    | case1 => rfl
    | case2 before c rest d body after hrun ih =>
        rw [h.firstRun?_eq_none before hsuffix] at hrun
        cases hrun
    | case3 before c rest hnone ih =>
        rw [ih ((List.suffix_cons c rest).trans hsuffix), List.map_cons]
  fun_induction segments delimiters before text with
  | case1 before => exact hplain before tail List.suffix_rfl
  | case2 before c rest d body after hrun ih =>
      have hlong := h.firstRun?_append before (c :: rest)
      rw [hrun] at hlong
      rw [segments_of_firstRun? hlong, ih, List.cons_append]
  | case3 before c rest hnone ih =>
      have hlong := h.firstRun?_append before (c :: rest)
      rw [hnone] at hlong
      have hplain : firstRun? delimiters before (c :: (rest ++ tail)) = none := hlong
      rw [List.cons_append, segments_of_firstRun?_none hplain, ih, List.cons_append]

end IsApart

/-- **A pass** leaves a text that takes no part in runs as it is, behind whatever it does in front
of it. -/
lemma Pass.wrapRuns_append (pass : Pass) {tail : Text} (h : IsApart pass.delimiters tail)
    (text : Text) : pass.wrapRuns (text ++ tail) = pass.wrapRuns text ++ tail := by
  have hplain : (tail.map Segment.plain).flatMap pass.wrapSegment = tail := by
    rw [List.flatMap_map]
    exact List.flatMap_singleton' tail
  rw [Pass.wrapRuns, h.segments_append, List.flatMap_append, hplain, Pass.wrapRuns]

/-! ### Running text -/

end Inline

/-- An ampersand is no part of a word. -/
lemma Text.isWord_of_head_ampersand {tail : Text} (h : tail.head? = some '&') :
    ∀ c ∈ tail.head?, Text.isWord c = false := by
  intro c hc
  rw [h] at hc
  obtain rfl := Option.some.inj hc
  decide +kernel

namespace Inline

/-- **Running text** in front of an escaped reference is formatted as it is alone, and the reference
stays. -/
lemma formatText_append {reference : Text} (hhead : reference.head? = some '&')
    (hmarks : ∀ c ∈ reference, isMarkChar c = false)
    (hescaped : Entity.escape false reference = reference) (text : Text) :
    formatText (text ++ reference) = formatText text ++ reference := by
  have hapart : ∀ pass ∈ Pass.all, IsApart pass.delimiters reference := by
    intro pass hpass
    refine ⟨Text.isWord_of_head_ampersand hhead,
      fun d hd => ((isEmphasis_of_mem_all pass hpass).marks d hd).1, fun d hd c hc hmem => ?_⟩
    have hmark := ((isEmphasis_of_mem_all pass hpass).marks d hd).2 c hc
    rw [hmarks c hmem] at hmark
    cases hmark
  have hpasses : ∀ passes : List Pass, (∀ pass ∈ passes, pass ∈ Pass.all) → ∀ start,
      passes.foldl (fun acc pass => pass.wrapRuns acc) (start ++ reference)
        = passes.foldl (fun acc pass => pass.wrapRuns acc) start ++ reference := by
    intro passes hmem
    induction passes with
    | nil => exact fun start => rfl
    | cons pass rest ih =>
        rw [List.forall_mem_cons] at hmem
        intro start
        rw [List.foldl_cons, List.foldl_cons, pass.wrapRuns_append (hapart pass hmem.1)]
        exact ih hmem.2 _
  rw [formatText, emphasize, Entity.escape_append hhead, hescaped]
  exact hpasses Pass.all (fun pass hpass => hpass) _

lemma formatText_nil : formatText [] = [] := by
  simp [formatText, emphasize, Pass.all, Pass.wrapRuns, segments, Entity.escape,
    Entity.escapeAmpersands]

/-- **The conversion of a line** with a sealed text behind it, whose running text at the beginning
is a reference: that of the line, and behind it that of the sealed text. -/
lemma renderLine_append (footnotes : Entries Int) {tail reference : Text} {back : List Span}
    (hsealed : IsSealed tail) (hspans : spans tail = .running reference :: back)
    (hhead : reference.head? = some '&') (hmarks : ∀ c ∈ reference, isMarkChar c = false)
    (hescaped : Entity.escape false reference = reference) (line : Text) :
    renderLine footnotes (line ++ tail)
      = renderLine footnotes line ++ renderLine footnotes tail := by
  have happend := formatText_append hhead hmarks hescaped
  have hreference := happend []
  rw [List.nil_append, formatText_nil, List.nil_append] at hreference
  have habut := hsealed.spans_append line
  rw [renderLine, renderLine, renderLine, hspans]
  rw [hspans] at habut
  generalize spans line = front at habut
  generalize spans (line ++ tail) = whole at habut
  cases habut with
  | apart => rw [List.flatMap_append]
  | joined front back words more =>
      simp only [List.flatMap_append, List.flatMap_cons, List.flatMap_nil, renderSpan, happend,
        hreference, List.append_nil, List.append_assoc]

end Inline

end BlockTree
