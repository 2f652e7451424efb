import BlockTree.Text.Quoted

/-!
Tokens of an attribute list: `.class`, `#id` and `key=value`.

* `Token.read?` recognises the longest token at the start of a text; `read?_eq_some` says that the
  token and the rest make up the text;
* `pieces` cuts a list at its blanks into tokens and illegal words: a token must be followed by a
  blank or the end, and an illegal word is a maximal run without blanks.
-/

namespace BlockTree.Attributes

/-- How the value of a key is written. -/
inductive Quoting where
  | double
  | single
  | bare
  deriving DecidableEq, Repr

/-- A token of an attribute list. -/
inductive Token where
  | cls (name : Text)
  | id (name : Text)
  | pair (key : Text) (quoting : Quoting) (value : Text)
  deriving DecidableEq, Repr

namespace Token

/-- The attribute that a token adds to. -/
def name : Token → Text
  | .cls _ => "class"
  | .id _ => "id"
  | .pair key _ _ => key

/-- The value that a token adds. -/
def value : Token → Text
  | .cls name => name
  | .id name => name
  | .pair _ _ value => value

/-- The text of a value between its marks. -/
def quoted : Quoting → Text → Text
  | .double, value => '"' :: value ++ ['"']
  | .single, value => '\x27' :: value ++ ['\x27']
  | .bare, value => value

/-- The text of a token. -/
def source : Token → Text
  | .cls name => '.' :: name
  | .id name => '#' :: name
  | .pair key quoting value => key ++ '=' :: quoted quoting value

/-- The characters of class names and keys. -/
def isNameChar (c : Char) : Bool :=
  Text.isWord c || c = '-'

/-- The characters of identifiers. -/
def isIdChar (c : Char) : Bool :=
  isNameChar c || c = ':' || c = '.'

/-- The characters of values without marks. -/
def isBareChar (c : Char) : Bool :=
  !Text.isBlank c && c ≠ '"' && c ≠ '\x27'

/-- The longest non-empty run of matching characters at the start of a text. -/
def run? (p : Char → Bool) (text : Text) : Option (Text × Text) :=
  match text.takeWhile p with
  | [] => none
  | c :: run => some (c :: run, text.dropWhile p)

/-- A value between marks, or without marks. -/
def readValue? : Text → Option (Quoting × Text × Text)
  | '"' :: rest => (Text.cut? '"' rest).map fun (value, after) => (.double, value, after)
  | '\x27' :: rest => (Text.cut? '\x27' rest).map fun (value, after) => (.single, value, after)
  | text => (run? isBareChar text).map fun (value, after) => (.bare, value, after)

/-- The longest token at the start of a text, and what follows it. -/
def read? (text : Text) : Option (Token × Text) :=
  match text with
  | '.' :: rest => (run? isNameChar rest).map fun (name, after) => (.cls name, after)
  | '#' :: rest => (run? isIdChar rest).map fun (name, after) => (.id name, after)
  | text =>
    match run? isNameChar text with
    | some (key, '=' :: rest) =>
      (readValue? rest).map fun (quoting, value, after) => (.pair key quoting value, after)
    | _ => none

/-- The text is empty or starts with a blank. -/
def atBoundary : Text → Bool
  | [] => true
  | c :: _ => Text.isBlank c

/-- A token at the start of a text that ends where a blank follows, or at the end. -/
def readWhole? (text : Text) : Option (Token × Text) :=
  (read? text).filter fun result => atBoundary result.2

/-! ### Laws -/

theorem run?_eq_some {p : Char → Bool} {text run rest : Text} (h : run? p text = some (run, rest)) :
    text = run ++ rest ∧ run ≠ [] := by
  unfold run? at h
  split at h
  · simp at h
  · rename_i c run' hr
    simp only [Option.some.injEq, Prod.mk.injEq] at h
    obtain ⟨rfl, rfl⟩ := h
    exact ⟨by rw [← hr, List.takeWhile_append_dropWhile], by simp⟩

theorem readValue?_eq_some {text value rest : Text} {quoting : Quoting}
    (h : readValue? text = some (quoting, value, rest)) : text = quoted quoting value ++ rest := by
  unfold readValue? at h
  split at h
  · simp only [Option.map_eq_some_iff, Prod.mk.injEq, Prod.exists] at h
    obtain ⟨_, _, hc, rfl, rfl, rfl⟩ := h
    simp [quoted, (Text.cut?_eq_some hc).1]
  · simp only [Option.map_eq_some_iff, Prod.mk.injEq, Prod.exists] at h
    obtain ⟨_, _, hc, rfl, rfl, rfl⟩ := h
    simp [quoted, (Text.cut?_eq_some hc).1]
  · simp only [Option.map_eq_some_iff, Prod.mk.injEq, Prod.exists] at h
    obtain ⟨_, _, hc, rfl, rfl, rfl⟩ := h
    simpa [quoted] using (run?_eq_some hc).1

/-- The token and the rest make up the text. -/
theorem read?_eq_some {text rest : Text} {token : Token} (h : read? text = some (token, rest)) :
    text = token.source ++ rest := by
  unfold read? at h
  split at h
  · simp only [Option.map_eq_some_iff, Prod.mk.injEq, Prod.exists] at h
    obtain ⟨_, _, hr, rfl, rfl⟩ := h
    simp [source, (run?_eq_some hr).1]
  · simp only [Option.map_eq_some_iff, Prod.mk.injEq, Prod.exists] at h
    obtain ⟨_, _, hr, rfl, rfl⟩ := h
    simp [source, (run?_eq_some hr).1]
  · split at h
    · rename_i hk
      simp only [Option.map_eq_some_iff, Prod.mk.injEq, Prod.exists] at h
      obtain ⟨_, _, _, hv, rfl, rfl⟩ := h
      rw [(run?_eq_some hk).1, readValue?_eq_some hv]
      simp [source]
    · simp at h

theorem source_ne_nil (token : Token) : token.source ≠ [] := by
  cases token <;> simp [source]

theorem readWhole?_length {text rest : Text} {token : Token}
    (h : readWhole? text = some (token, rest)) : rest.length < text.length := by
  simp only [readWhole?, Option.filter_eq_some_iff] at h
  rw [read?_eq_some h.1]
  have := List.length_pos_iff.2 token.source_ne_nil
  simp only [List.length_append]
  omega

end Token

/-- A token of the list, or a word that is none. -/
inductive Piece where
  | token (token : Token)
  | illegal (word : Text)
  deriving DecidableEq, Repr

/-- The tokens and the illegal words of a list, in order. -/
def pieces (text : Text) : List Piece :=
  match text with
  | [] => []
  | c :: rest =>
    if Text.isBlank c then pieces rest
    else
      match _ : Token.readWhole? (c :: rest) with
      | some (token, after) => .token token :: pieces after
      | none =>
        .illegal (c :: rest.takeWhile (!Text.isBlank ·))
          :: pieces (rest.dropWhile (!Text.isBlank ·))
termination_by text.length
decreasing_by
  · simp
  · exact Token.readWhole?_length (by assumption)
  · have := (List.dropWhile_suffix (l := rest) (!Text.isBlank ·)).length_le
    simp only [List.length_cons]
    omega

end BlockTree.Attributes
