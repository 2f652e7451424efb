import BlockTree.Inline.Delimiter

/-!
Spans of a line: code, tags, images, footnote references and links, with running text between them.

* `Span.read?` recognises a span at the start of a text; `read?_eq_some` says that the span and the
  rest make up the text;
* `spans` cuts a line into spans, from left to right; `source_spans` says that nothing is lost.
-/

namespace BlockTree.Inline

/-- The title of a link or an image, with the blanks in front of it. -/
structure Title where
  gap : Text
  words : Text
  deriving DecidableEq, Repr

/-- A part of a line. -/
inductive Span where
  | running (words : Text)
  | code (ticks : Nat) (body : Text)
  | tag (source : Text)
  | image (alternative path : Text) (title : Option Title)
  | note (id : Text)
  | link (label address : Text) (title : Option Title)
  deriving DecidableEq, Repr

/-- A run of backticks. -/
def ticks (n : Nat) : Text :=
  List.replicate n '\x60'

/-- The text of a title and the blanks in front of it. -/
def Title.source : Option Title → Text
  | none => []
  | some title => title.gap ++ '"' :: title.words ++ ['"']

/-- The text of a span. -/
def Span.source : Span → Text
  | .running words => words
  | .code n body => ticks n ++ body ++ ticks n
  | .tag source => source
  | .image alternative path title =>
    "![" ++ alternative ++ "](" ++ path ++ Title.source title ++ ")"
  | .note id => "[^" ++ id ++ "]"
  | .link label address title => "[" ++ label ++ "](" ++ address ++ Title.source title ++ ")"

namespace Span

/-! ### Code -/

/-- A code span whose marks have at most `n` backticks, the longest marks first. -/
def readCode? (text : Text) : Nat → Option (Span × Text)
  | 0 => none
  | n + 1 =>
    match (text.after? (ticks (n + 1))).bind (body? (Text.after? · (ticks (n + 1)))) with
    | some (body, after) => some (.code (n + 1) body, after)
    | none => readCode? text n

/-! ### Tags -/

/-- The characters inside a tag. -/
def isTagChar (c : Char) : Bool :=
  c ≠ '<' && c ≠ '>'

/-- What follows the opening of a tag: an optional slash, then the rest, which starts with a letter.
-/
def tagName? : Text → Option (Text × Text)
  | '/' :: c :: rest => if c.isAlpha then some (['/'], c :: rest) else none
  | c :: rest => if c.isAlpha then some ([], c :: rest) else none
  | [] => none

/-- A tag written in the line. -/
def readTag? (text : Text) : Option (Span × Text) :=
  (text.after? ['<']).bind fun inner =>
    (tagName? inner).bind fun (slash, name) =>
      match name.dropWhile isTagChar with
      | '>' :: after => some (.tag ('<' :: slash ++ name.takeWhile isTagChar ++ ['>']), after)
      | _ => none

/-! ### Links, images and footnote references -/

/-- A bracketed part up to its closing bracket. -/
def bracketed? (text : Text) : Option (Text × Text) :=
  Text.cut? ']' text

/-- The characters of an address. -/
def isAddressChar (c : Char) : Bool :=
  !Text.isBlank c && c ≠ ')'

/-- The title in double marks and the closing parenthesis after it. -/
def readTitle? (text : Text) : Option (Title × Text) :=
  match text.takeWhile Text.isBlank, text.dropWhile Text.isBlank with
  | b :: blanks, '"' :: rest =>
    match Text.cut? '"' rest with
    | some (title, ')' :: after) => some (⟨b :: blanks, title⟩, after)
    | _ => none
  | _, _ => none

/-- The end of a target: an optional title, and the closing parenthesis. -/
def readTargetEnd? : Text → Option (Option Title × Text)
  | ')' :: after => some (none, after)
  | text => (readTitle? text).map fun (title, after) => (some title, after)

/-- A target: a parenthesis, an address that is not empty, an optional title and a parenthesis. -/
def readTarget? (text : Text) : Option (Text × Option Title × Text) :=
  (text.after? ['(']).bind fun inner =>
    match inner.takeWhile isAddressChar with
    | [] => none
    | c :: address =>
      (readTargetEnd? (inner.dropWhile isAddressChar)).map fun (title, after) =>
        (c :: address, title, after)

/-- An image. -/
def readImage? (text : Text) : Option (Span × Text) :=
  (text.after? "![").bind fun inner =>
    (bracketed? inner).bind fun (alternative, target) =>
      (readTarget? target).map fun (path, title, after) => (.image alternative path title, after)

/-- A reference to a footnote. -/
def readNote? (text : Text) : Option (Span × Text) :=
  (text.after? "[^").bind fun inner =>
    (bracketed? inner).bind fun (id, after) =>
      if id.isEmpty then none else some (.note id, after)

/-- A link. -/
def readLink? (text : Text) : Option (Span × Text) :=
  (text.after? "[").bind fun inner =>
    (bracketed? inner).bind fun (label, target) =>
      if label.isEmpty then none
      else
        (readTarget? target).map fun (address, title, after) =>
          (.link label address title, after)

/-- The kinds of spans in the order in which they are tried. -/
def readers : List (Text → Option (Span × Text)) :=
  [fun text => readCode? text (text.takeWhile (· = '\x60')).length, readTag?, readImage?, readNote?,
   readLink?]

/-- The span at the start of a text, and what follows it. -/
def read? (text : Text) : Option (Span × Text) :=
  readers.findSome? (· text)

/-! ### Laws -/

theorem readCode?_eq_some {text rest : Text} {span : Span} {n : Nat}
    (h : readCode? text n = some (span, rest)) : text = span.source ++ rest ∧ span.source ≠ [] := by
  induction n with
  | zero => simp [readCode?] at h
  | succ n ih =>
    rw [readCode?] at h
    split at h
    · rename_i body after hb
      simp only [Option.some.injEq, Prod.mk.injEq] at h
      obtain ⟨rfl, rfl⟩ := h
      obtain ⟨inner, hl, hb⟩ := Option.bind_eq_some_iff.1 hb
      obtain ⟨close, rfl, hcl, hne, -⟩ := body?_eq_some hb
      rw [Text.after?_eq_some.1 hl, Text.after?_eq_some.1 hcl]
      simp [source, hne]
    · exact ih h

theorem tagName?_eq_some {text slash name : Text} (h : tagName? text = some (slash, name)) :
    text = slash ++ name := by
  unfold tagName? at h
  split at h
  · split at h
    · simp only [Option.some.injEq, Prod.mk.injEq] at h
      obtain ⟨rfl, rfl⟩ := h
      rfl
    · simp at h
  · split at h
    · simp only [Option.some.injEq, Prod.mk.injEq] at h
      obtain ⟨rfl, rfl⟩ := h
      rfl
    · simp at h
  · simp at h

theorem readTag?_eq_some {text rest : Text} {span : Span} (h : readTag? text = some (span, rest)) :
    text = span.source ++ rest ∧ span.source ≠ [] := by
  simp only [readTag?, Option.bind_eq_some_iff, Prod.exists] at h
  obtain ⟨inner, hl, slash, name, hn, h⟩ := h
  split at h
  · rename_i hd
    simp only [Option.some.injEq, Prod.mk.injEq] at h
    obtain ⟨rfl, rfl⟩ := h
    have hname := List.takeWhile_append_dropWhile (p := isTagChar) (l := name)
    rw [hd] at hname
    rw [Text.after?_eq_some.1 hl, tagName?_eq_some hn]
    simp [source, hname]
  · simp at h

theorem readTitle?_eq_some {text rest : Text} {title : Title}
    (h : readTitle? text = some (title, rest)) :
    text = Title.source (some title) ++ ')' :: rest := by
  unfold readTitle? at h
  split at h
  · rename_i hb hq
    split at h
    · rename_i hc
      simp only [Option.some.injEq, Prod.mk.injEq] at h
      obtain ⟨rfl, rfl⟩ := h
      rw [← List.takeWhile_append_dropWhile (p := Text.isBlank) (l := text), hb, hq,
        (Text.cut?_eq_some hc).1]
      simp [Title.source]
    · simp at h
  · simp at h

theorem readTargetEnd?_eq_some {text rest : Text} {title : Option Title}
    (h : readTargetEnd? text = some (title, rest)) : text = Title.source title ++ ')' :: rest := by
  unfold readTargetEnd? at h
  split at h
  · simp only [Option.some.injEq, Prod.mk.injEq] at h
    obtain ⟨rfl, rfl⟩ := h
    rfl
  · simp only [Option.map_eq_some_iff, Prod.exists, Prod.mk.injEq] at h
    obtain ⟨_, _, ht, rfl, rfl⟩ := h
    exact readTitle?_eq_some ht

theorem readTarget?_eq_some {text address rest : Text} {title : Option Title}
    (h : readTarget? text = some (address, title, rest)) :
    text = '(' :: address ++ Title.source title ++ ')' :: rest := by
  simp only [readTarget?, Option.bind_eq_some_iff] at h
  obtain ⟨inner, hl, h⟩ := h
  split at h
  · simp at h
  · rename_i hr
    simp only [Option.map_eq_some_iff, Prod.exists, Prod.mk.injEq] at h
    obtain ⟨_, _, he, rfl, rfl, rfl⟩ := h
    rw [Text.after?_eq_some.1 hl,
      ← List.takeWhile_append_dropWhile (p := isAddressChar) (l := inner), hr,
      readTargetEnd?_eq_some he]
    simp

theorem readImage?_eq_some {text rest : Text} {span : Span}
    (h : readImage? text = some (span, rest)) : text = span.source ++ rest ∧ span.source ≠ [] := by
  simp only [readImage?, bracketed?, Option.bind_eq_some_iff, Option.map_eq_some_iff, Prod.exists,
    Prod.mk.injEq] at h
  obtain ⟨inner, hl, alternative, target, hc, path, title, _, ht, rfl, rfl⟩ := h
  rw [Text.after?_eq_some.1 hl, (Text.cut?_eq_some hc).1, readTarget?_eq_some ht]
  simp [source]

theorem readNote?_eq_some {text rest : Text} {span : Span}
    (h : readNote? text = some (span, rest)) : text = span.source ++ rest ∧ span.source ≠ [] := by
  simp only [readNote?, bracketed?, Option.bind_eq_some_iff, Prod.exists] at h
  obtain ⟨inner, hl, id, after, hc, h⟩ := h
  split at h
  · simp at h
  · simp only [Option.some.injEq, Prod.mk.injEq] at h
    obtain ⟨rfl, rfl⟩ := h
    rw [Text.after?_eq_some.1 hl, (Text.cut?_eq_some hc).1]
    simp [source]

theorem readLink?_eq_some {text rest : Text} {span : Span}
    (h : readLink? text = some (span, rest)) : text = span.source ++ rest ∧ span.source ≠ [] := by
  simp only [readLink?, bracketed?, Option.bind_eq_some_iff, Prod.exists] at h
  obtain ⟨inner, hl, label, target, hc, h⟩ := h
  split at h
  · simp at h
  · simp only [Option.map_eq_some_iff, Prod.exists, Prod.mk.injEq] at h
    obtain ⟨address, title, _, ht, rfl, rfl⟩ := h
    rw [Text.after?_eq_some.1 hl, (Text.cut?_eq_some hc).1, readTarget?_eq_some ht]
    simp [source]

/-- The span and the rest make up the text, and the span is not empty. -/
theorem read?_eq_some {text rest : Text} {span : Span} (h : read? text = some (span, rest)) :
    text = span.source ++ rest ∧ span.source ≠ [] := by
  obtain ⟨reader, hmem, h⟩ := List.exists_of_findSome?_eq_some h
  simp only [readers, List.mem_cons, List.not_mem_nil, or_false] at hmem
  obtain rfl | rfl | rfl | rfl | rfl := hmem
  · exact readCode?_eq_some h
  · exact readTag?_eq_some h
  · exact readImage?_eq_some h
  · exact readNote?_eq_some h
  · exact readLink?_eq_some h

theorem read?_length {text rest : Text} {span : Span} (h : read? text = some (span, rest)) :
    rest.length < text.length := by
  obtain ⟨rfl, hne⟩ := read?_eq_some h
  have := List.length_pos_iff.2 hne
  simp only [List.length_append]
  omega

end Span

/-! ### Lines -/

/-- A character of running text in front of the spans after it. -/
def consText (c : Char) : List Span → List Span
  | .running words :: rest => .running (c :: words) :: rest
  | rest => .running [c] :: rest

/-- Cuts a line into its spans, with the running text between them. -/
def spans (text : Text) : List Span :=
  match text with
  | [] => []
  | c :: rest =>
    match _ : Span.read? (c :: rest) with
    | some (span, after) => span :: spans after
    | none => consText c (spans rest)
termination_by text.length
decreasing_by
  · exact Span.read?_length (by assumption)
  · simp

theorem source_consText (c : Char) (parts : List Span) :
    (consText c parts).flatMap Span.source = c :: parts.flatMap Span.source := by
  unfold consText
  split <;> simp [Span.source]

/-- The spans make up the line. -/
theorem source_spans (text : Text) : (spans text).flatMap Span.source = text := by
  fun_induction spans text with
  | case1 => rfl
  | case2 c rest span after h ih =>
    simp [ih, (Span.read?_eq_some h).1]
  | case3 c rest h ih => simp [source_consText, ih]

end BlockTree.Inline
