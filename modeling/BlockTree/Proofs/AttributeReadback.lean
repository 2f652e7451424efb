import BlockTree.Proofs.AttributeGrammar
import BlockTree.Proofs.OwnTag

/-!
Written attributes as the reader of lists sees them.

* `unwrap_serialize`: attributes under keys are written without braces, so that nothing is taken off.
* `pieces_serialize_append`: attributes without double quotes in their values are cut off as one token
  each, whatever attributes follow.
* `pieces_serialize_quoted`: the first value with a double quote is cut off there if white space
  follows; if not, its word is illegal.
* `exists_find?_gathered`: the value of the first token of a name stands first under the name.
* `readList_serialize_quoted`: so of the first value with a double quote only what is in front of the
  quote is read back, or there is a complaint.
-/

namespace BlockTree.Attributes

/-! ### Written attributes -/

/-- A name that can be written as a key. -/
def IsKey (name : Text) : Prop :=
  name ≠ [] ∧ ∀ c ∈ name, Token.isNameChar c = true

instance decidableIsKey : DecidablePred IsKey := fun _ =>
  inferInstanceAs (Decidable (_ ∧ _))

/-- An attribute as a token. -/
def tokenOf (entry : Text × List Text) : Token :=
  .pair entry.1 .double (Text.join " " entry.2)

lemma source_tokenOf (entry : Text × List Text) :
    (tokenOf entry).source = serializeOne entry.1 entry.2 := by
  simp [tokenOf, Token.source, Token.quoted, serializeOne]

lemma serialize_cons (entry : Text × List Text) (rest : Attributes) :
    serialize (entry :: rest)
      = serializeOne entry.1 entry.2 ++ (if rest.isEmpty then [] else ' ' :: serialize rest) := by
  cases rest with
  | nil =>
      rw [List.isEmpty_nil, if_pos rfl, List.append_nil]
      rfl
  | cons second rest =>
      rw [List.isEmpty_cons, if_neg Bool.false_ne_true, serialize, List.map_cons, List.map_cons,
        Text.join_cons_cons, List.append_assoc]
      rfl

lemma isNameChar_of_serialize_eq_cons {attributes : Attributes}
    (hkeys : ∀ entry ∈ attributes, IsKey entry.1) {c : Char} {rest : Text}
    (h : serialize attributes = c :: rest) : Token.isNameChar c = true := by
  cases attributes with
  | nil => exact nomatch h
  | cons entry others =>
      obtain ⟨hne, hall⟩ := hkeys entry List.mem_cons_self
      obtain ⟨d, name, hentry⟩ := List.exists_cons_of_ne_nil hne
      rw [serialize_cons, serializeOne, hentry] at h
      rw [← (List.cons.inj h).1]
      exact hall d (by rw [hentry]; exact List.mem_cons_self)

/-- Nothing is taken off written attributes: they begin with a key and end with a double quote. -/
lemma unwrap_serialize {attributes : Attributes} (hkeys : ∀ entry ∈ attributes, IsKey entry.1) :
    unwrap (serialize attributes) = serialize attributes := by
  cases attributes with
  | nil => rfl
  | cons entry rest =>
      have hhead : ∀ c ∈ (serialize (entry :: rest)).head?, Token.isNameChar c = true := by
        intro c hc
        obtain ⟨others, hothers⟩ := List.head?_eq_some_iff.mp hc
        exact isNameChar_of_serialize_eq_cons hkeys hothers
      have hlast : ∀ c ∈ (serialize (entry :: rest)).getLast?, Text.isBlank c = false := by
        rw [getLast?_serialize]
        rintro c ⟨⟩
        decide
      have htrim : Text.trim Text.isBlank ([] ++ serialize (entry :: rest) ++ [])
          = serialize (entry :: rest) :=
        Text.trim_append nofun nofun
          (fun c hc => Token.not_isBlank_of_isNameChar (hhead c hc)) hlast
      rw [List.nil_append, List.append_nil] at htrim
      rw [unwrap, htrim]
      split
      · rename_i rest hbrace
        rw [hbrace] at hhead
        exact absurd (hhead _ rfl) (by decide)
      · rfl

/-- **Attributes without double quotes** are cut off one after the other. -/
lemma pieces_serialize_append {front : Attributes} (hkeys : ∀ entry ∈ front, IsKey entry.1)
    (hquotes : ∀ entry ∈ front, '"' ∉ Text.join " " entry.2) (back : Attributes) :
    pieces (serialize (front ++ back))
      = (front.map tokenOf).map Piece.token ++ pieces (serialize back) := by
  induction front with
  | nil => rfl
  | cons entry front ih =>
      obtain ⟨hkey, hkeys⟩ := List.forall_mem_cons.mp hkeys
      obtain ⟨hquote, hquotes⟩ := List.forall_mem_cons.mp hquotes
      have hlegal : (tokenOf entry).IsLegal := ⟨hkey, hquote⟩
      rw [List.cons_append, serialize_cons, ← source_tokenOf, List.map_cons, List.map_cons,
        List.cons_append, ← ih hkeys hquotes]
      split
      · rename_i hempty
        rw [pieces_source_append hlegal rfl, List.isEmpty_iff.mp hempty]
        rfl
      · rw [pieces_source_append hlegal rfl, pieces_cons_blank rfl]

/-! ### Values with double quotes -/

/-- A value in double quotes with neither white space nor the end behind it makes the word illegal. -/
lemma exists_pieces_illegal {key before rest : Text} (hkey : IsKey key) (hbefore : '"' ∉ before)
    (hrest : Token.atBoundary rest = false) :
    ∃ word more, pieces (key ++ '=' :: '"' :: (before ++ '"' :: rest)) = .illegal word :: more := by
  have hvalue : Token.readValue? ('"' :: (before ++ '"' :: rest)) = some (.double, before, rest) := by
    rw [Token.readValue?, Text.cut?_append hbefore]
    rfl
  have hread := Token.read?_pair hkey.1 hkey.2 ('"' :: (before ++ '"' :: rest))
  rw [hvalue] at hread
  obtain ⟨c, key, rfl⟩ := List.exists_cons_of_ne_nil hkey.1
  have hc := Token.not_isBlank_of_isNameChar (hkey.2 c List.mem_cons_self)
  rw [List.cons_append] at hread ⊢
  rw [pieces, hc, if_neg Bool.false_ne_true]
  split
  · rename_i token after hwhole
    rw [Token.readWhole?, hread] at hwhole
    obtain ⟨hsame, hboundary⟩ := Option.filter_eq_some_iff.mp hwhole
    cases hsame
    cases hrest.symm.trans hboundary
  · exact ⟨_, _, rfl⟩

/-- **The first value with a double quote** is cut off there, if white space follows; if not, the
reader complains about the word. -/
lemma pieces_serialize_quoted {front : Attributes} {entry : Text × List Text}
    (hkeys : ∀ other ∈ front, IsKey other.1) (hkey : IsKey entry.1)
    (hquotes : ∀ other ∈ front, '"' ∉ Text.join " " other.2) {before after : Text}
    (hbefore : '"' ∉ before) (hvalue : Text.join " " entry.2 = before ++ '"' :: after)
    (back : Attributes) :
    ∃ piece more, pieces (serialize (front ++ entry :: back))
        = (front.map tokenOf).map Piece.token ++ piece :: more
      ∧ if after.head?.any Text.isBlank then piece = .token (.pair entry.1 .double before)
        else ∃ word, piece = .illegal word := by
  obtain ⟨tail, hwritten⟩ : ∃ tail, serialize (entry :: back)
      = entry.1 ++ '=' :: '"' :: (before ++ '"' :: (after ++ '"' :: tail)) := by
    refine ⟨if back.isEmpty then [] else ' ' :: serialize back, ?_⟩
    rw [serialize_cons, serializeOne, hvalue]
    simp
  have hboundary : Token.atBoundary (after ++ '"' :: tail) = after.head?.any Text.isBlank := by
    cases after <;> rfl
  rw [pieces_serialize_append hkeys hquotes, hwritten, ← hboundary]
  split
  · rename_i hrest
    have hlegal : (Token.pair entry.1 .double before).IsLegal := ⟨hkey, hbefore⟩
    have hpieces := pieces_source_append hlegal hrest
    rw [Token.source, Token.quoted] at hpieces
    simp only [List.append_assoc, List.cons_append, List.nil_append] at hpieces
    exact ⟨_, _, by rw [hpieces], rfl⟩
  · rename_i hrest
    rw [Bool.not_eq_true] at hrest
    obtain ⟨word, more, hpieces⟩ := exists_pieces_illegal hkey hbefore hrest
    exact ⟨_, more, by rw [hpieces], word, rfl⟩

/-! ### Gathered values -/

lemma find?_map_of_mem {names : List Text} {name : Text} (h : name ∈ names)
    (values : Text → List Text) :
    Entries.find? name (names.map fun n => (n, values n)) = some (values name) := by
  induction names with
  | nil => cases h
  | cons first names ih =>
      rw [List.map_cons, Entries.find?]
      split
      · rename_i hfirst
        rw [hfirst]
      · rename_i hfirst
        exact ih ((List.mem_cons.mp h).resolve_left (Ne.symm hfirst))

/-- The value of the first token of a name stands first. -/
lemma exists_find?_gathered {front : List Token} (token : Token)
    (h : token.name ∉ front.map Token.name) (back : List Token) :
    ∃ more, (gathered (front ++ token :: back)).find? token.name = some (token.value :: more) := by
  have hnone : front.filter (fun other => other.name = token.name) = [] := by
    rw [List.filter_eq_nil_iff]
    intro other hother hname
    exact h (List.mem_map.mpr ⟨other, hother, by simpa using hname⟩)
  have hmem : token.name ∈ ((front ++ token :: back).map Token.name).eraseDups :=
    List.mem_eraseDups.mpr (List.mem_map_of_mem (List.mem_append_right _ List.mem_cons_self))
  rw [gathered, find?_map_of_mem hmem, List.filter_append, hnone,
    List.filter_cons_of_pos (by simp), List.nil_append]
  exact ⟨_, rfl⟩

lemma name_notMem_of_nodup {front back : Attributes} {entry : Text × List Text}
    (h : (front ++ entry :: back).names.Nodup) :
    entry.1 ∉ (front.map tokenOf).map Token.name := by
  rw [Entries.names, List.map_append, List.map_cons] at h
  rw [List.map_map]
  exact fun hmem => List.disjoint_of_nodup_append h hmem List.mem_cons_self

/-! ### Reading attributes back -/

/-- **The first value with a double quote in it is not read back**: the attributes in front of it have
their values first under their names, but the value is cut off at the quote, or there is a complaint.
-/
lemma readList_serialize_quoted {front : Attributes} {entry : Text × List Text} {back : Attributes}
    (hkeys : ∀ other ∈ front ++ entry :: back, IsKey other.1)
    (hnodup : (front ++ entry :: back).names.Nodup)
    (hquotes : ∀ other ∈ front, '"' ∉ Text.join " " other.2) {before after : Text}
    (hbefore : '"' ∉ before) (hvalue : Text.join " " entry.2 = before ++ '"' :: after) :
    (∀ other ∈ front, ∃ more,
        (readList (serialize (front ++ entry :: back))).attributes.find? other.1
          = some (Text.join " " other.2 :: more))
      ∧ if after.head?.any Text.isBlank then
          ∃ more, (readList (serialize (front ++ entry :: back))).attributes.find? entry.1
            = some (before :: more)
        else (readList (serialize (front ++ entry :: back))).complaints ≠ [] := by
  obtain ⟨hfront, hentry⟩ := List.forall_mem_append.mp hkeys
  obtain ⟨piece, more, hpieces, hpiece⟩ := pieces_serialize_quoted hfront
    (hentry entry List.mem_cons_self) hquotes hbefore hvalue back
  have hreading : readList (serialize (front ++ entry :: back))
      = ⟨gathered (front.map tokenOf ++ (piece :: more).filterMap Piece.token?),
          (piece :: more).filterMap Piece.complaint?⟩ := by
    rw [readList_eq, unwrap_serialize hkeys, hpieces, List.filterMap_append, List.filterMap_append,
      filterMap_token?_map, filterMap_complaint?_map, List.nil_append]
  rw [hreading]
  constructor
  · intro other hother
    obtain ⟨first, others, rfl⟩ := List.append_of_mem hother
    rw [List.append_assoc, List.cons_append] at hnodup
    rw [List.map_append, List.map_cons, List.append_assoc, List.cons_append]
    exact exists_find?_gathered (tokenOf other) (name_notMem_of_nodup hnodup) _
  · split
    · rename_i hblank
      rw [if_pos hblank] at hpiece
      subst hpiece
      exact exists_find?_gathered (.pair entry.1 .double before) (name_notMem_of_nodup hnodup) _
    · rename_i hblank
      rw [if_neg hblank] at hpiece
      obtain ⟨word, rfl⟩ := hpiece
      exact List.cons_ne_nil _ _

end BlockTree.Attributes
