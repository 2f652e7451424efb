import BlockTree.Proofs.InlinePieces

/-!
The written forms of spans, and the readers of spans against them.

* `Title.IsLegal`, `IsTarget`: titles and targets as they can be written; `Span.IsImage`,
  `Span.IsNote`, `Span.IsLink` and `Span.IsTag`: the same for spans.
* `Span.readImage?_iff`, `Span.readNote?_iff`, `Span.readLink?_iff` and `Span.readTag?_iff`: such a
  span is read exactly where its written form stands, whatever follows it.
* `Span.read?_plain`: no span begins with a character that opens none.
* `spans_of_read?`, `spans_of_read?_none` and `spans_plain_append`: the spans of a line, by what it
  begins with.
-/

namespace BlockTree

open Inline.Span (isTagChar isAddressChar)

namespace Inline

/-! ### Titles and targets -/

/-- **A legal title**: behind blanks, and without the mark that ends it. -/
structure Title.IsLegal (title : Title) : Prop where
  gap_ne_nil : title.gap ≠ []
  isBlank : ∀ c ∈ title.gap, Text.isBlank c = true
  notMem : '"' ∉ title.words

/-- **A target**: an address without blanks and closing parentheses, and a legal title if there is
one. -/
structure IsTarget (address : Text) (title : Option Title) : Prop where
  ne_nil : address ≠ []
  isAddressChar : ∀ c ∈ address, isAddressChar c = true
  isLegal : ∀ t ∈ title, t.IsLegal

namespace Span

/-- **An image** as it can be written. -/
def IsImage (span : Span) : Prop :=
  ∃ alternative path title, span = .image alternative path title
    ∧ ']' ∉ alternative ∧ IsTarget path title

/-- **A reference to a footnote** as it can be written. -/
def IsNote (span : Span) : Prop :=
  ∃ id, span = .note id ∧ id ≠ [] ∧ ']' ∉ id

/-- **A link** as it can be written. -/
def IsLink (span : Span) : Prop :=
  ∃ label address title, span = .link label address title
    ∧ label ≠ [] ∧ ']' ∉ label ∧ IsTarget address title

/-- **A tag** as it can be written. -/
def IsTag (span : Span) : Prop :=
  ∃ inside, span = .tag (tagged inside []) ∧ IsWrittenTag inside

/-! ### Reading titles and targets -/

lemma readTitle?_iff {text rest : Text} {title : Title} :
    readTitle? text = some (title, rest)
      ↔ title.IsLegal ∧ text = Title.source (some title) ++ ')' :: rest := by
  constructor
  · intro h
    refine ⟨?_, readTitle?_eq_some h⟩
    unfold readTitle? at h
    split at h
    · rename_i hgap hquote
      split at h
      · rename_i hcut
        obtain ⟨rfl, rfl⟩ := Prod.mk_inj.mp (Option.some.inj h)
        refine ⟨List.cons_ne_nil _ _, fun c hc => ?_, (Text.cut?_eq_some hcut).2⟩
        exact List.all_eq_true.mp List.all_takeWhile c (hgap ▸ hc)
      · cases h
    · cases h
  · rintro ⟨⟨hne, hblank, hwords⟩, rfl⟩
    obtain ⟨gap, words⟩ := title
    obtain ⟨b, blanks, rfl⟩ := List.exists_cons_of_ne_nil hne
    have hquote : Text.isBlank '"' = false := by decide
    have hsource : Title.source (some ⟨b :: blanks, words⟩) ++ ')' :: rest
        = (b :: blanks) ++ '"' :: (words ++ '"' :: ')' :: rest) := by
      simp [Title.source]
    rw [hsource, readTitle?, Text.takeWhile_run hblank hquote, Text.dropWhile_run hblank hquote]
    simp only [Text.cut?_append hwords]

lemma readTargetEnd?_iff {text rest : Text} {title : Option Title} :
    readTargetEnd? text = some (title, rest)
      ↔ (∀ t ∈ title, t.IsLegal) ∧ text = Title.source title ++ ')' :: rest := by
  constructor
  · intro h
    refine ⟨?_, readTargetEnd?_eq_some h⟩
    unfold readTargetEnd? at h
    split at h
    · obtain ⟨rfl, rfl⟩ := Prod.mk_inj.mp (Option.some.inj h)
      exact nofun
    · obtain ⟨⟨title, after⟩, htitle, hpair⟩ := Option.map_eq_some_iff.mp h
      obtain ⟨rfl, rfl⟩ := Prod.mk_inj.mp hpair
      rintro t ht
      obtain rfl := Option.mem_some.mp ht
      exact (readTitle?_iff.mp htitle).1
  · rintro ⟨hlegal, rfl⟩
    cases title with
    | none => rfl
    | some title =>
        have htitle := hlegal title rfl
        obtain ⟨b, blanks, hgap⟩ := List.exists_cons_of_ne_nil htitle.gap_ne_nil
        have hb : Text.isBlank b = true := htitle.isBlank b (by rw [hgap]; exact List.mem_cons_self)
        have hparen : b ≠ ')' := Text.ne_of_class hb (by decide)
        rw [readTargetEnd?, readTitle?_iff.mpr ⟨htitle, rfl⟩]
        · rfl
        · intro after heq
          rw [Title.source, hgap] at heq
          exact hparen (List.cons.inj heq).1

/-- Behind an address, a title or the closing parenthesis begins with no character of an address. -/
lemma exists_targetEnd {title : Option Title} (h : ∀ t ∈ title, t.IsLegal) (rest : Text) :
    ∃ d after, Title.source title ++ ')' :: rest = d :: after ∧ isAddressChar d = false := by
  cases title with
  | none => exact ⟨')', rest, rfl, by decide⟩
  | some title =>
      have htitle := h title rfl
      obtain ⟨b, blanks, hgap⟩ := List.exists_cons_of_ne_nil htitle.gap_ne_nil
      have hb : Text.isBlank b = true := htitle.isBlank b (by rw [hgap]; exact List.mem_cons_self)
      refine ⟨b, _, by rw [Title.source, hgap]; rfl, ?_⟩
      simp [isAddressChar, hb]

lemma readTarget?_iff {text address rest : Text} {title : Option Title} :
    readTarget? text = some (address, title, rest)
      ↔ IsTarget address title ∧ text = '(' :: address ++ Title.source title ++ ')' :: rest := by
  constructor
  · intro h
    refine ⟨?_, readTarget?_eq_some h⟩
    simp only [readTarget?, Option.bind_eq_some_iff] at h
    obtain ⟨inner, -, h⟩ := h
    split at h
    · cases h
    · rename_i haddress
      simp only [Option.map_eq_some_iff, Prod.exists, Prod.mk.injEq] at h
      obtain ⟨_, _, hend, rfl, rfl, rfl⟩ := h
      refine ⟨List.cons_ne_nil _ _, fun c hc => ?_, (readTargetEnd?_iff.mp hend).1⟩
      exact List.all_eq_true.mp List.all_takeWhile c (haddress ▸ hc)
  · rintro ⟨⟨hne, haddress, htitle⟩, rfl⟩
    obtain ⟨d, after, hend, hd⟩ := exists_targetEnd htitle rest
    have hread : readTargetEnd? (d :: after) = some (title, rest) := by
      rw [← hend]
      exact readTargetEnd?_iff.mpr ⟨htitle, rfl⟩
    have hafter : Text.after? ('(' :: (address ++ d :: after)) ['(']
        = some (address ++ d :: after) :=
      Text.after?_eq_some.mpr rfl
    obtain ⟨c, more, rfl⟩ := List.exists_cons_of_ne_nil hne
    rw [List.append_assoc, hend, List.cons_append, readTarget?, hafter, Option.bind_some,
      Text.takeWhile_run haddress hd, Text.dropWhile_run haddress hd, hread]
    rfl

/-! ### Images, references and links -/

lemma readImage?_iff {text rest : Text} {span : Span} :
    readImage? text = some (span, rest)
      ↔ span.IsImage ∧ text = span.source ++ rest := by
  constructor
  · intro h
    have htext := (readImage?_eq_some h).1
    simp only [readImage?, bracketed?, Option.bind_eq_some_iff, Option.map_eq_some_iff, Prod.exists,
      Prod.mk.injEq] at h
    obtain ⟨inner, -, alternative, target, hcut, path, title, _, htarget, rfl, rfl⟩ := h
    exact ⟨⟨alternative, path, title, rfl, (Text.cut?_eq_some hcut).2,
      (readTarget?_iff.mp htarget).1⟩, htext⟩
  · rintro ⟨⟨alternative, path, title, rfl, halternative, htarget⟩, rfl⟩
    have hsource : source (.image alternative path title) ++ rest
        = "![".toList ++ (alternative ++ ']'
            :: ('(' :: path ++ Title.source title ++ ')' :: rest)) := by
      simp [source]
    rw [hsource, readImage?, Text.after?_eq_some.mpr rfl, Option.bind_some, bracketed?,
      Text.cut?_append halternative, Option.bind_some]
    simp only [readTarget?_iff.mpr ⟨htarget, rfl⟩, Option.map_some]

lemma readNote?_iff {text rest : Text} {span : Span} :
    readNote? text = some (span, rest)
      ↔ span.IsNote ∧ text = span.source ++ rest := by
  constructor
  · intro h
    have htext := (readNote?_eq_some h).1
    simp only [readNote?, bracketed?, Option.bind_eq_some_iff, Prod.exists] at h
    obtain ⟨inner, -, id, after, hcut, h⟩ := h
    split at h
    · cases h
    · rename_i hid
      obtain ⟨rfl, rfl⟩ := Prod.mk_inj.mp (Option.some.inj h)
      exact ⟨⟨id, rfl, fun hnil => hid (by rw [hnil]; rfl), (Text.cut?_eq_some hcut).2⟩, htext⟩
  · rintro ⟨⟨id, rfl, hne, hid⟩, rfl⟩
    have hsource : source (.note id) ++ rest = "[^".toList ++ (id ++ ']' :: rest) := by
      simp [source]
    have hempty : id.isEmpty = false := List.isEmpty_eq_false_iff.mpr hne
    rw [hsource, readNote?, Text.after?_eq_some.mpr rfl, Option.bind_some, bracketed?,
      Text.cut?_append hid, Option.bind_some]
    simp only [hempty, Bool.false_eq_true, if_false]

lemma readLink?_iff {text rest : Text} {span : Span} :
    readLink? text = some (span, rest)
      ↔ span.IsLink ∧ text = span.source ++ rest := by
  constructor
  · intro h
    have htext := (readLink?_eq_some h).1
    simp only [readLink?, bracketed?, Option.bind_eq_some_iff, Prod.exists] at h
    obtain ⟨inner, -, label, target, hcut, h⟩ := h
    split at h
    · cases h
    · rename_i hlabel
      simp only [Option.map_eq_some_iff, Prod.exists, Prod.mk.injEq] at h
      obtain ⟨address, title, _, htarget, rfl, rfl⟩ := h
      exact ⟨⟨label, address, title, rfl, fun hnil => hlabel (by rw [hnil]; rfl),
        (Text.cut?_eq_some hcut).2, (readTarget?_iff.mp htarget).1⟩, htext⟩
  · rintro ⟨⟨label, address, title, rfl, hne, hlabel, htarget⟩, rfl⟩
    have hsource : source (.link label address title) ++ rest
        = "[".toList ++ (label ++ ']' :: ('(' :: address ++ Title.source title ++ ')' :: rest)) := by
      simp [source]
    have hempty : label.isEmpty = false := List.isEmpty_eq_false_iff.mpr hne
    rw [hsource, readLink?, Text.after?_eq_some.mpr rfl, Option.bind_some, bracketed?,
      Text.cut?_append hlabel, Option.bind_some]
    simp only [hempty, Bool.false_eq_true, if_false, readTarget?_iff.mpr ⟨htarget, rfl⟩,
      Option.map_some]

/-! ### Tags -/

/-- The opening of a tag, without a slash or with one. -/
lemma tagName?_append {slash : Text} (hslash : slash = [] ∨ slash = ['/']) {letter : Char}
    (hletter : letter.isAlpha = true) (rest : Text) :
    tagName? (slash ++ letter :: rest) = some (slash, letter :: rest) := by
  have hne : letter ≠ '/' := Text.ne_of_class hletter rfl
  rcases hslash with rfl | rfl
  · rw [List.nil_append, tagName?, if_pos hletter]
    exact fun _ _ heq => absurd heq hne
  · exact if_pos hletter

lemma readTag?_iff {text rest : Text} {span : Span} :
    readTag? text = some (span, rest)
      ↔ span.IsTag ∧ text = span.source ++ rest := by
  constructor
  · intro h
    have htext := (readTag?_eq_some h).1
    have hwritten := isWritten_of_readTag? h
    simp only [readTag?, Option.bind_eq_some_iff, Prod.exists] at h
    obtain ⟨inner, -, slash, name, -, h⟩ := h
    split at h
    · obtain ⟨rfl, rfl⟩ := Prod.mk_inj.mp (Option.some.inj h)
      obtain ⟨inside, hsource, hinside⟩ := hwritten
      exact ⟨⟨inside, by rw [hsource], hinside⟩, htext⟩
    · cases h
  · rintro ⟨⟨_, rfl, slash, letter, name, rfl, hslash, hletter, hname⟩, rfl⟩
    have hchars : ∀ c ∈ letter :: name, isTagChar c = true :=
      List.forall_mem_cons.mpr ⟨isTagChar_of_isAlpha hletter, hname⟩
    have hclose : isTagChar '>' = false := by decide
    have hsource : source (.tag (tagged (slash ++ letter :: name) [])) ++ rest
        = ['<'] ++ (slash ++ letter :: (name ++ '>' :: rest)) := by
      simp [source, tagged]
    have hrun : letter :: (name ++ '>' :: rest) = (letter :: name) ++ '>' :: rest := rfl
    rw [hsource, readTag?, Text.after?_eq_some.mpr rfl, Option.bind_some,
      tagName?_append hslash hletter, Option.bind_some]
    simp only [hrun, Text.takeWhile_run hchars hclose, Text.dropWhile_run hchars hclose]
    simp [tagged]

/-! ### The readers by the first character -/

section

variable {text : Text}

lemma read?_angle (h : text.head? = some '<') : read? text = readTag? text := by
  obtain ⟨inner, rfl⟩ := List.head?_eq_some_iff.mp h
  have hread : read? ('<' :: inner) = [readTag?].findSome? (· ('<' :: inner)) := by
    rw [read?, readers, List.findSome?_cons, List.findSome?_cons, List.findSome?_singleton]
    cases readTag? ('<' :: inner) <;> rfl
  rw [hread, List.findSome?_singleton]

lemma read?_exclamation (h : text.head? = some '!') : read? text = readImage? text := by
  obtain ⟨inner, rfl⟩ := List.head?_eq_some_iff.mp h
  have hread : read? ('!' :: inner)
      = [readImage?, readNote?, readLink?].findSome? (· ('!' :: inner)) := rfl
  rw [hread, List.findSome?_cons]
  cases readImage? ('!' :: inner) <;> rfl

/-- References to footnotes are tried before links. -/
lemma read?_bracket (h : text.head? = some '[') :
    read? text = (readNote? text).or (readLink? text) := by
  obtain ⟨inner, rfl⟩ := List.head?_eq_some_iff.mp h
  have hread : read? ('[' :: inner) = [readNote?, readLink?].findSome? (· ('[' :: inner)) := rfl
  rw [hread, List.findSome?_cons, List.findSome?_singleton]
  cases readNote? ('[' :: inner) <;> rfl

end

/-- A tag is read where it is written. -/
lemma read?_of_isTag {span : Span} (h : span.IsTag) (rest : Text) :
    read? (span.source ++ rest) = some (span, rest) := by
  have htag : readTag? (span.source ++ rest) = some (span, rest) := readTag?_iff.mpr ⟨h, rfl⟩
  obtain ⟨inside, rfl, -⟩ := h
  rw [read?_angle (by rfl), htag]

/-- An image is read where it is written. -/
lemma read?_of_isImage {span : Span} (h : span.IsImage) (rest : Text) :
    read? (span.source ++ rest) = some (span, rest) := by
  have himage : readImage? (span.source ++ rest) = some (span, rest) :=
    readImage?_iff.mpr ⟨h, rfl⟩
  obtain ⟨alternative, path, title, rfl, -⟩ := h
  rw [read?_exclamation (by rfl), himage]

/-- A reference to a footnote is read where it is written, as no other span but a link begins like
it. -/
lemma read?_of_isNote {span : Span} (h : span.IsNote) (rest : Text) :
    read? (span.source ++ rest) = some (span, rest) := by
  have hnote : readNote? (span.source ++ rest) = some (span, rest) := readNote?_iff.mpr ⟨h, rfl⟩
  obtain ⟨id, rfl, -⟩ := h
  rw [read?_bracket (by rfl), hnote, Option.some_or]

/-- A link is read where it is written, unless its label begins like a reference to a footnote. -/
lemma read?_of_isLink {label address : Text} {title : Option Title}
    (h : (link label address title).IsLink) (hlabel : label.head? ≠ some '^') (rest : Text) :
    read? ((link label address title).source ++ rest) = some (link label address title, rest) := by
  have hlink : readLink? ((link label address title).source ++ rest)
      = some (link label address title, rest) :=
    readLink?_iff.mpr ⟨h, rfl⟩
  have hnote : readNote? ((link label address title).source ++ rest) = none := by
    obtain ⟨_, _, _, heq, hne, -⟩ := h
    cases heq
    obtain ⟨c, label, rfl⟩ := List.exists_cons_of_ne_nil hne
    have hc : c ≠ '^' := fun hc => hlabel (by rw [hc]; rfl)
    simp [readNote?, source, Text.after?, hc]
  rw [read?_bracket (by rfl), hnote, Option.none_or, hlink]

/-! ### Running text -/

/-- The characters that a span can begin with. -/
def isOpening (c : Char) : Bool :=
  c = '\x60' || c = '<' || c = '!' || c = '['

/-- No span begins with a character that opens none. -/
lemma read?_plain {c : Char} (hc : isOpening c = false) (rest : Text) : read? (c :: rest) = none := by
  simp only [isOpening, Bool.or_eq_false_iff, decide_eq_false_iff_not] at hc
  obtain ⟨⟨⟨htick, htag⟩, himage⟩, hlink⟩ := hc
  have hcode : readCode? (c :: rest) ((c :: rest).takeWhile (· = '\x60')).length = none := by
    rw [List.takeWhile_cons_of_neg (by simpa using htick)]
    rfl
  rw [read?, List.findSome?_eq_none_iff]
  intro reader hreader
  simp only [readers, List.mem_cons, List.not_mem_nil, or_false] at hreader
  obtain rfl | rfl | rfl | rfl | rfl := hreader
  · exact hcode
  · simp [readTag?, Text.after?, htag]
  · simp [readImage?, Text.after?, himage]
  · simp [readNote?, Text.after?, hlink]
  · simp [readLink?, Text.after?, hlink]

end Span

/-! ### Lines -/

/-- A line that begins with a span. -/
lemma spans_of_read? {text rest : Text} {span : Span} (h : Span.read? text = some (span, rest)) :
    spans text = span :: spans rest := by
  cases text with
  | nil => cases h
  | cons c text =>
      rw [spans]
      split
      · rename_i hread
        obtain ⟨rfl, rfl⟩ := Prod.mk_inj.mp (Option.some.inj (hread.symm.trans h))
        rfl
      · rename_i hread
        cases hread.symm.trans h

/-- A line that begins with running text. -/
lemma spans_of_read?_none {c : Char} {rest : Text} (h : Span.read? (c :: rest) = none) :
    spans (c :: rest) = consText c (spans rest) := by
  rw [spans]
  split
  · rename_i hread
    cases hread.symm.trans h
  · rfl

/-- A line that begins with words that open no span. -/
lemma spans_plain_append {words : Text} (h : ∀ c ∈ words, Span.isOpening c = false) (rest : Text) :
    spans (words ++ rest) = words.foldr consText (spans rest) := by
  induction words with
  | nil => rfl
  | cons c words ih =>
      rw [List.forall_mem_cons] at h
      rw [List.cons_append, spans_of_read?_none (Span.read?_plain h.1 _), ih h.2]
      rfl

end Inline
end BlockTree
