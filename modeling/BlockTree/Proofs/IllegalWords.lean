import BlockTree.Proofs.AttributeReadback
import BlockTree.Proofs.MergedAttributes

/-!
Illegal words between attribute lists.

* `followedBy`: attributes followed by others; `gathered_append`: those of tokens and then of
  others.
* `pieces_trim`: a list is cut into the same pieces, whatever white space surrounds it.
* `IsLegalWord`: a word that is a token; `Token.IsLegal.exists_quote`: only behind a quotation mark
  a token has white space in it, so that no token reaches beyond a word without them, and
  `pieces_word_append` cuts off the whole of an illegal one.
* `readList_illegalWord`: so an illegal word between two lists costs one complaint, and both lists
  are read as they are read alone.
-/

namespace BlockTree.Attributes

/-! ### One list after another -/

/-- **Attributes followed by others**: the names of the first in their order, each with the values
that the others have for it behind its own, and then the names that only the others have. -/
def followedBy (attributes others : Attributes) : Attributes :=
  (attributes.map fun entry => (entry.1, entry.2 ++ (others.find? entry.1).getD []))
    ++ others.filter fun entry => !attributes.names.contains entry.1

lemma eraseDups_filter (p : Text → Bool) (names : List Text) :
    (names.filter p).eraseDups = names.eraseDups.filter p := by
  induction names using List.reverseRecOn with
  | nil => rfl
  | append_singleton names name ih =>
      cases hp : p name with
      | false =>
          rw [List.filter_append, List.filter_cons_of_neg (by simp [hp]), List.filter_nil,
            List.append_nil, ih]
          by_cases hmem : name ∈ names
          · rw [eraseDups_concat_of_mem hmem]
          · rw [eraseDups_concat_of_notMem hmem, List.filter_append,
              List.filter_cons_of_neg (by simp [hp]), List.filter_nil, List.append_nil]
      | true =>
          rw [List.filter_append, List.filter_cons_of_pos hp, List.filter_nil]
          by_cases hmem : name ∈ names
          · rw [eraseDups_concat_of_mem hmem,
              eraseDups_concat_of_mem (List.mem_filter.mpr ⟨hmem, hp⟩), ih]
          · rw [eraseDups_concat_of_notMem hmem,
              eraseDups_concat_of_notMem (mt List.mem_of_mem_filter hmem), ih, List.filter_append,
              List.filter_cons_of_pos hp, List.filter_nil]

lemma filter_name_eq_nil {tokens : List Token} {name : Text} (h : name ∉ tokens.map Token.name) :
    (tokens.filter fun token => token.name = name) = [] :=
  List.filter_eq_nil_iff.mpr fun token htoken hname =>
    h (List.mem_map.mpr ⟨token, htoken, by simpa using hname⟩)

/-- The values that tokens give a name. -/
lemma find?_gathered (tokens : List Token) (name : Text) :
    ((gathered tokens).find? name).getD []
      = (tokens.filter fun token => token.name = name).map Token.value := by
  by_cases hmem : name ∈ tokens.map Token.name
  · rw [gathered, find?_map_of_mem (List.mem_eraseDups.mpr hmem), Option.getD_some]
  · have hnone : (gathered tokens).find? name = none := by
      rw [Entries.find?_eq_none_iff, names_gathered, List.mem_eraseDups]
      exact hmem
    rw [hnone, filter_name_eq_nil hmem]
    rfl

/-- **Tokens after other tokens** add their values behind those that are there, and then their
names. -/
lemma gathered_append (tokens others : List Token) :
    gathered (tokens ++ others) = (gathered tokens).followedBy (gathered others) := by
  have hvalues : ∀ name, ((tokens ++ others).filter fun token => token.name = name).map Token.value
      = (tokens.filter fun token => token.name = name).map Token.value
        ++ (others.filter fun token => token.name = name).map Token.value := by
    intro name
    rw [List.filter_append, List.map_append]
  have hnew : ((others.map Token.name).removeAll (tokens.map Token.name)).eraseDups
      = (others.map Token.name).eraseDups.filter fun name =>
          !(tokens.map Token.name).contains name :=
    eraseDups_filter _ _
  have hknown : ∀ name, (gathered tokens).names.contains name
      = (tokens.map Token.name).contains name := by
    intro name
    rw [names_gathered, Bool.eq_iff_iff, List.contains_iff_mem, List.contains_iff_mem,
      List.mem_eraseDups]
  rw [followedBy]
  simp only [find?_gathered, hknown]
  rw [gathered, List.map_append, List.eraseDups_append, hnew, List.map_append]
  simp only [hvalues]
  congr 1
  · rw [gathered, List.map_map]
    rfl
  · rw [gathered, List.filter_map]
    refine List.map_congr_left fun name hname => ?_
    have hmem : name ∉ tokens.map Token.name := by simpa using (List.mem_filter.mp hname).2
    rw [filter_name_eq_nil hmem, List.map_nil, List.nil_append]

/-! ### White space around a list -/

lemma pieces_of_readWhole?_eq_none {c : Char} {rest : Text} (hc : Text.isBlank c = false)
    (h : Token.readWhole? (c :: rest) = none) :
    pieces (c :: rest)
      = .illegal (c :: rest.takeWhile (!Text.isBlank ·))
        :: pieces (rest.dropWhile (!Text.isBlank ·)) := by
  rw [pieces, hc, if_neg Bool.false_ne_true]
  split
  · rename_i heq
    rw [h] at heq
    cases heq
  · rfl

/-- White space behind a text that starts with no token does not make it start with one. -/
lemma readWhole?_append_gap_eq_none {text gap : Text} (hgap : IsGap gap)
    (h : Token.readWhole? text = none) : Token.readWhole? (text ++ gap) = none := by
  rw [Option.eq_none_iff_forall_not_mem]
  rintro ⟨token, after⟩ hread
  rw [Option.mem_def, Token.readWhole?, Option.filter_eq_some_iff] at hread
  have hlegal := Token.isLegal_of_read? hread.1
  rcases List.append_eq_append_iff.mp (Token.read?_eq_some hread.1) with
    ⟨excess, hsource, hrest⟩ | ⟨rest, htext, hafter⟩
  · -- The token would end in the white space, or be the whole of the text.
    rcases List.eq_nil_or_concat excess with rfl | ⟨others, d, rfl⟩
    · have hread := readWhole?_source_append hlegal (rfl : Token.atBoundary [] = true)
      rw [hsource, List.append_nil, List.append_nil, h] at hread
      cases hread
    · obtain ⟨front, e, hend, he⟩ := hlegal.getLast_source
      rw [hsource, List.concat_eq_append, ← List.append_assoc] at hend
      have hde : d = e := (List.cons.inj (List.append_inj' hend rfl).2).1
      have hd : Text.isBlank d = true := hgap d (by rw [hrest]; simp)
      rw [hde, he] at hd
      cases hd
  · have hboundary : Token.atBoundary rest = true := by
      have hblank := hread.2
      rw [hafter] at hblank
      cases rest with
      | nil => rfl
      | cons c rest => exact hblank
    rw [htext, readWhole?_source_append hlegal hboundary] at h
    cases h

section

variable {gap : Text} (hgap : IsGap gap) (text : Text)
include hgap

lemma takeWhile_append_gap :
    (text ++ gap).takeWhile (!Text.isBlank ·) = text.takeWhile (!Text.isBlank ·) := by
  have hnil : gap.takeWhile (!Text.isBlank ·) = [] :=
    List.takeWhile_eq_nil_iff.mpr fun h => by simp [hgap _ (List.getElem_mem h)]
  rw [List.takeWhile_append, hnil, List.append_nil]
  split
  · rename_i hlength
    exact ((List.takeWhile_prefix _).eq_of_length hlength).symm
  · rfl

lemma dropWhile_append_gap :
    (text ++ gap).dropWhile (!Text.isBlank ·) = text.dropWhile (!Text.isBlank ·) ++ gap := by
  have hgap : gap.dropWhile (!Text.isBlank ·) = gap :=
    List.dropWhile_eq_self_iff.mpr fun h => by simp [hgap _ (List.getElem_mem h)]
  rw [List.dropWhile_append, hgap]
  split
  · rename_i hempty
    rw [List.isEmpty_iff.mp hempty, List.nil_append]
  · rfl

end

/-- White space at the end does not count. -/
lemma pieces_append_gap {gap : Text} (hgap : IsGap gap) (text : Text) :
    pieces (text ++ gap) = pieces text := by
  fun_induction pieces text with
  | case1 =>
      have hempty := pieces_gap_append hgap []
      rwa [List.append_nil, pieces] at hempty
  | case2 c rest hc ih => rw [List.cons_append, pieces_cons_blank hc, ih]
  | case3 c rest hc token after hread ih =>
      rw [Token.readWhole?, Option.filter_eq_some_iff] at hread
      have hboundary : Token.atBoundary (after ++ gap) = true :=
        atBoundary_append hread.2 hgap.atBoundary
      rw [Token.read?_eq_some hread.1, List.append_assoc,
        pieces_source_append (Token.isLegal_of_read? hread.1) hboundary, ih]
  | case4 c rest hc hread ih =>
      have hnone : Token.readWhole? (c :: (rest ++ gap)) = none :=
        readWhole?_append_gap_eq_none hgap hread
      rw [Bool.not_eq_true] at hc
      rw [List.cons_append, pieces_of_readWhole?_eq_none hc hnone, takeWhile_append_gap hgap,
        dropWhile_append_gap hgap, ih]

/-- White space around a list does not count. -/
lemma pieces_trim (text : Text) : pieces (Text.trim Text.isBlank text) = pieces text := by
  obtain ⟨front, back, htext, hfront, hback⟩ := Text.exists_trim Text.isBlank text
  have htrimmed := pieces_append_gap hback (front ++ Text.trim Text.isBlank text)
  rw [← htext, pieces_gap_append hfront] at htrimmed
  exact htrimmed.symm

/-! ### Illegal words -/

/-- **A legal word** is the text of a legal token. -/
def IsLegalWord (word : Text) : Prop :=
  ∃ token : Token, token.IsLegal ∧ token.source = word

lemma not_isLegalWord_of_readWhole? {word : Text} (h : Token.readWhole? word = none) :
    ¬ IsLegalWord word := by
  rintro ⟨token, hlegal, rfl⟩
  have hread := readWhole?_source_append hlegal (rfl : Token.atBoundary [] = true)
  rw [List.append_nil, h] at hread
  cases hread

/-- A mark behind characters without white space stands in front of all white space. -/
lemma mark_mem_of_append_eq {lead tail front back : Text} {mark c : Char}
    (hlead : ∀ d ∈ lead, Text.isBlank d = false) (hmark : Text.isBlank mark = false)
    (hc : Text.isBlank c = true) (h : lead ++ mark :: tail = front ++ c :: back) :
    mark ∈ front := by
  rcases List.append_eq_append_iff.mp h with ⟨more, rfl, hmore⟩ | ⟨more, rfl, hmore⟩
  · cases more with
    | nil =>
        rw [(List.cons.inj hmore).1, hc] at hmark
        cases hmark
    | cons d more =>
        rw [(List.cons.inj hmore).1]
        exact List.mem_append_right _ List.mem_cons_self
  · cases more with
    | nil =>
        rw [← (List.cons.inj hmore).1, hc] at hmark
        cases hmark
    | cons d more =>
        have hd := hlead d (List.mem_append_right _ List.mem_cons_self)
        rw [← (List.cons.inj hmore).1, hc] at hd
        cases hd

/-- **White space in a token** stands behind a quotation mark. -/
lemma Token.IsLegal.exists_quote {token : Token} (h : token.IsLegal) {front back : Text} {c : Char}
    (hsource : token.source = front ++ c :: back) (hc : Text.isBlank c = true) :
    ∃ d ∈ front, isBareChar d = false := by
  have hmem : c ∈ token.source := by
    rw [hsource]
    exact List.mem_append_right _ List.mem_cons_self
  -- Without quotation marks a token has no white space at all.
  have hnone : (∀ d ∈ token.source, Text.isBlank d = false) → ∃ d ∈ front, isBareChar d = false :=
    fun hall => by
      rw [hall c hmem] at hc
      cases hc
  cases token with
  | cls name =>
      exact hnone (List.forall_mem_cons.mpr
        ⟨by decide, fun d hd => not_isBlank_of_isNameChar (h.2 d hd)⟩)
  | id name =>
      exact hnone (List.forall_mem_cons.mpr
        ⟨by decide, fun d hd => not_isBlank_of_isIdChar (h.2 d hd)⟩)
  | pair key quoting value =>
      have hlead : ∀ d ∈ key ++ ['='], Text.isBlank d = false :=
        List.forall_mem_append.mpr ⟨fun d hd => not_isBlank_of_isNameChar (h.1.2 d hd), by decide⟩
      have hsplit : (Token.pair key quoting value).source
          = (key ++ ['=']) ++ quoted quoting value := by
        simp [source]
      cases quoting with
      | double =>
          rw [hsplit] at hsource
          exact ⟨'"', mark_mem_of_append_eq hlead (by decide) hc hsource, by decide⟩
      | single =>
          rw [hsplit] at hsource
          exact ⟨'\x27', mark_mem_of_append_eq hlead (by decide) hc hsource, by decide⟩
      | bare =>
          rw [hsplit] at hnone
          exact hnone (List.forall_mem_append.mpr
            ⟨hlead, fun d hd => not_isBlank_of_isBareChar (h.2.2 d hd)⟩)

section

variable {word rest : Text} (hword : ∀ c ∈ word, Token.isBareChar c = true)
  (hillegal : ¬ IsLegalWord word) (hrest : Token.atBoundary rest = true)
include hword hillegal hrest

/-- No token starts with a part of an illegal word, and none goes on behind it. -/
lemma readWhole?_word_append : Token.readWhole? (word ++ rest) = none := by
  rw [Option.eq_none_iff_forall_not_mem]
  rintro ⟨token, after⟩ hread
  rw [Option.mem_def, Token.readWhole?, Option.filter_eq_some_iff] at hread
  have hlegal := Token.isLegal_of_read? hread.1
  rcases List.append_eq_append_iff.mp (Token.read?_eq_some hread.1) with
    ⟨more, hsource, hafter⟩ | ⟨more, hsource, hafter⟩
  · cases more with
    | nil => exact hillegal ⟨token, hlegal, by rw [hsource, List.append_nil]⟩
    | cons c more =>
        rw [hafter] at hrest
        obtain ⟨d, hd, hbare⟩ := hlegal.exists_quote hsource hrest
        rw [hword d hd] at hbare
        cases hbare
  · cases more with
    | nil => exact hillegal ⟨token, hlegal, by rw [hsource, List.append_nil]⟩
    | cons c more =>
        have hblank : Text.isBlank c = true := by
          have hboundary := hread.2
          rwa [hafter] at hboundary
        have hbare := hword c (by rw [hsource]; exact List.mem_append_right _ List.mem_cons_self)
        rw [Token.not_isBlank_of_isBareChar hbare] at hblank
        cases hblank

/-- **An illegal word** is cut off as a whole. -/
lemma pieces_word_append (hne : word ≠ []) :
    pieces (word ++ rest) = .illegal word :: pieces rest := by
  have hnone := readWhole?_word_append hword hillegal hrest
  have hstop : ∀ d ∈ rest.head?, (!Text.isBlank d) = false := by
    intro d hd
    obtain ⟨others, rfl⟩ := List.head?_eq_some_iff.mp hd
    exact congrArg (! ·) hrest
  obtain ⟨c, inner, rfl⟩ := List.exists_cons_of_ne_nil hne
  obtain ⟨hc, hinner⟩ := List.forall_mem_cons.mp fun d hd =>
    Token.not_isBlank_of_isBareChar (hword d hd)
  have hrun : ∀ d ∈ inner, (!Text.isBlank d) = true := fun d hd => by rw [hinner d hd]; rfl
  have htake : rest.takeWhile (!Text.isBlank ·) = [] := by
    cases rest with
    | nil => rfl
    | cons d rest => exact List.takeWhile_cons_of_neg (by simp [hstop d rfl])
  rw [List.cons_append] at hnone ⊢
  rw [pieces_of_readWhole?_eq_none hc hnone, List.takeWhile_append_of_pos hrun, htake,
    List.append_nil, Text.dropWhile_append_of_head? hrun hstop]

end

/-! ### Lists with an illegal word between them -/

/-- **A list in braces**, apart from the white space around it. -/
def IsBraced (raw : Text) : Prop :=
  ∃ inner, Text.trim Text.isBlank raw = '\x7b' :: ':' :: (inner ++ ['\x7d'])

lemma not_isBraced_of_head? {raw : Text} (h : (Text.trim Text.isBlank raw).head? ≠ some '\x7b') :
    ¬ IsBraced raw := by
  rintro ⟨inner, hinner⟩
  rw [hinner] at h
  exact h rfl

/-- A list that is not in braces is cut as it stands. -/
lemma pieces_unwrap {raw : Text} (h : ¬ IsBraced raw) : pieces (unwrap raw) = pieces raw := by
  rw [← pieces_trim raw, unwrap]
  split
  · rename_i rest htrim
    split
    · rename_i hlast
      obtain ⟨inner, rfl⟩ := List.getLast?_eq_some_iff.mp hlast
      exact absurd ⟨inner, htrim⟩ h
    · rw [htrim]
  · rfl

/-- **An illegal word between two lists.** If there is no complaint about the first list, the word
has neither white space nor quotation marks in it, and nothing is taken for braces around a list,
there is one complaint about the word and then those about the second list, and the attributes are
those of the first list followed by those of the second. -/
theorem readList_illegalWord (list word rest : Text)
    (hlist : (readList list).complaints = []) (hne : word ≠ [])
    (hword : ∀ c ∈ word, Token.isBareChar c = true) (hillegal : ¬ IsLegalWord word)
    (hlistBraced : ¬ IsBraced list) (hrestBraced : ¬ IsBraced rest)
    (hbraced : ¬ IsBraced (list ++ ' ' :: (word ++ ' ' :: rest))) :
    readList (list ++ ' ' :: (word ++ ' ' :: rest))
      = ⟨(readList list).attributes.followedBy (readList rest).attributes,
          complaint word :: (readList rest).complaints⟩ := by
  obtain ⟨tokens, htokens⟩ : ∃ tokens : List Token, pieces list = tokens.map Piece.token := by
    rw [readList_eq, pieces_unwrap hlistBraced] at hlist
    exact exists_tokens hlist
  have hcut : pieces (list ++ ' ' :: (word ++ ' ' :: rest))
      = tokens.map Piece.token ++ .illegal word :: pieces rest := by
    rw [(spells_of_pieces htokens).pieces_append (rfl : Token.atBoundary (' ' :: _) = true),
      pieces_cons_blank (by decide), pieces_word_append hword hillegal rfl hne,
      pieces_cons_blank (by decide)]
  rw [readList_eq, readList_eq list, readList_eq rest, pieces_unwrap hbraced,
    pieces_unwrap hlistBraced, pieces_unwrap hrestBraced, hcut, htokens]
  simp only [List.filterMap_append, filterMap_token?_map, filterMap_complaint?_map]
  rw [← gathered_append]
  rfl

/-- A class with an exclamation mark in it, between a value with white space and a list that has an
illegal word of its own and shares two names with the first. -/
theorem readList_illegalWord_class :
    readList ".a k='x y' .a!b #c =d k=z .e"
      = ⟨[("class", ["a", "e"]), ("k", ["x y", "z"]), ("id", ["c"])],
          [complaint ".a!b", complaint "=d"]⟩ := by
  have hread := readList_illegalWord ".a k='x y'" ".a!b" "#c =d k=z .e" (by decide +kernel)
    (by decide) (by decide +kernel)
    (not_isLegalWord_of_readWhole? (by decide +kernel)) (not_isBraced_of_head? (by decide))
    (not_isBraced_of_head? (by decide)) (not_isBraced_of_head? (by decide))
  refine Eq.trans ?_ (hread.trans ?_)
  · rfl
  · decide +kernel

end BlockTree.Attributes
