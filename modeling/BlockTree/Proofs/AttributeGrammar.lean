import BlockTree.Attributes.Basic
import Mathlib.Data.List.TakeWhile
import Mathlib.Tactic

/-!
The grammar of attribute lists, and the reader of the lists against it.

* `Token.IsLegal`: the three forms of a token; `read?_source` says that a legal token is read back
  wherever white space or the end follows, and `isLegal_of_read?` that only legal tokens are read.
* `Spells`: a text consists of tokens with white space between them; `Written`: the same for a list
  that may stand in braces.
* `spells_iff_pieces`: a text spells tokens if it is cut into them and nothing else.
* `gathered`: the values of each name in the order of the tokens, names in the order of their first
  mention.
* `readList_written`: a list without complaints is one that spells tokens, in one way only, and its
  attributes are those gathered from the tokens.
-/

namespace BlockTree.Attributes

/-! ### Legal tokens -/

/-- The values that can be written in one of the three ways. -/
def Quoting.Admits : Quoting → Text → Prop
  | .double, value => '"' ∉ value
  | .single, value => '\x27' ∉ value
  | .bare, value => value ≠ [] ∧ ∀ c ∈ value, Token.isBareChar c = true

namespace Token

/-- **A legal token**: a class, an identifier, or a key with a value. -/
def IsLegal : Token → Prop
  | .cls name => name ≠ [] ∧ ∀ c ∈ name, isNameChar c = true
  | .id name => name ≠ [] ∧ ∀ c ∈ name, isIdChar c = true
  | .pair key quoting value => (key ≠ [] ∧ ∀ c ∈ key, isNameChar c = true) ∧ quoting.Admits value

/-! ### Characters of tokens -/

lemma not_isBlank_of_isNameChar {c : Char} (h : isNameChar c = true) : Text.isBlank c = false := by
  by_contra hblank
  rw [Bool.not_eq_false] at hblank
  rw [isNameChar, Text.not_isWord_of_isBlank hblank, Bool.false_or, decide_eq_true_eq] at h
  subst h
  exact absurd hblank (by decide)

lemma not_isBlank_of_isIdChar {c : Char} (h : isIdChar c = true) : Text.isBlank c = false := by
  rw [isIdChar, Bool.or_eq_true, Bool.or_eq_true, decide_eq_true_eq, decide_eq_true_eq] at h
  rcases h with (h | rfl) | rfl
  · exact not_isBlank_of_isNameChar h
  · decide
  · decide

lemma not_isBlank_of_isBareChar {c : Char} (h : isBareChar c = true) : Text.isBlank c = false := by
  rw [isBareChar, Bool.and_eq_true, Bool.and_eq_true, Bool.not_eq_true'] at h
  exact h.1.1

/-- What follows a token starts with no character of a class without blanks. -/
lemma head?_of_atBoundary {p : Char → Bool} (hp : ∀ c, p c = true → Text.isBlank c = false)
    {rest : Text} (h : atBoundary rest = true) : ∀ c ∈ rest.head?, p c = false := by
  cases rest with
  | nil => exact nofun
  | cons d rest =>
      rintro c hc
      obtain rfl : d = c := by simpa using hc
      by_contra hpc
      rw [Bool.not_eq_false] at hpc
      exact absurd h (by rw [atBoundary, hp d hpc]; exact Bool.false_ne_true)

/-! ### Reading a legal token -/

lemma run?_append {p : Char → Bool} {run rest : Text} (hne : run ≠ [])
    (hrun : ∀ c ∈ run, p c = true) (hrest : ∀ c ∈ rest.head?, p c = false) :
    run? p (run ++ rest) = some (run, rest) := by
  have hstop : rest.takeWhile p = [] := by
    cases rest with
    | nil => rfl
    | cons c rest => exact List.takeWhile_cons_of_neg (by simp [hrest c rfl])
  have htake : (run ++ rest).takeWhile p = run := by
    rw [List.takeWhile_append_of_pos hrun, hstop, List.append_nil]
  have hdrop : (run ++ rest).dropWhile p = rest := Text.dropWhile_append_of_head? hrun hrest
  rw [run?, htake, hdrop]
  cases run with
  | nil => exact absurd rfl hne
  | cons c run => rfl

lemma readValue?_append {quoting : Quoting} {value rest : Text} (h : quoting.Admits value)
    (hrest : atBoundary rest = true) :
    readValue? (quoted quoting value ++ rest) = some (quoting, value, rest) := by
  cases quoting with
  | double =>
      have hcut := Text.cut?_append h rest
      simp [quoted, readValue?, hcut]
  | single =>
      have hcut := Text.cut?_append h rest
      simp [quoted, readValue?, hcut]
  | bare =>
      obtain ⟨hne, hall⟩ := h
      have hrun := run?_append hne hall (head?_of_atBoundary (fun c => not_isBlank_of_isBareChar) hrest)
      rw [quoted, readValue?]
      · rw [hrun]
        rfl
      · intro others heq
        obtain ⟨c, value, rfl⟩ := List.exists_cons_of_ne_nil hne
        have hc := hall c List.mem_cons_self
        rw [(List.cons.inj heq).1] at hc
        exact absurd hc (by decide)
      · intro others heq
        obtain ⟨c, value, rfl⟩ := List.exists_cons_of_ne_nil hne
        have hc := hall c List.mem_cons_self
        rw [(List.cons.inj heq).1] at hc
        exact absurd hc (by decide)

/-- Behind a key and an equals sign a value is read. -/
lemma read?_pair {key : Text} (hne : key ≠ []) (hkey : ∀ c ∈ key, isNameChar c = true)
    (text : Text) :
    read? (key ++ '=' :: text)
      = (readValue? text).map fun (quoting, value, after) => (.pair key quoting value, after) := by
  have hequals : ∀ c ∈ ('=' :: text).head?, isNameChar c = false := by
    intro c hc
    obtain rfl : '=' = c := by simpa using hc
    decide
  have hrun := run?_append hne hkey hequals
  obtain ⟨c, key, rfl⟩ := List.exists_cons_of_ne_nil hne
  have hdot : c ≠ '.' := by
    rintro rfl
    exact absurd (hkey _ List.mem_cons_self) (by decide)
  have hsharp : c ≠ '#' := by
    rintro rfl
    exact absurd (hkey _ List.mem_cons_self) (by decide)
  rw [read?]
  · rw [hrun]
    rfl
  · exact fun others heq => hdot (List.cons.inj heq).1
  · exact fun others heq => hsharp (List.cons.inj heq).1

/-- **A legal token is read back** wherever white space or the end follows. -/
lemma read?_source {token : Token} (h : token.IsLegal) {rest : Text}
    (hrest : atBoundary rest = true) : read? (token.source ++ rest) = some (token, rest) := by
  cases token with
  | cls name =>
      have hrun := run?_append h.1 h.2 (head?_of_atBoundary (fun c => not_isBlank_of_isNameChar) hrest)
      simp [source, read?, hrun]
  | id name =>
      have hrun := run?_append h.1 h.2 (head?_of_atBoundary (fun c => not_isBlank_of_isIdChar) hrest)
      simp [source, read?, hrun]
  | pair key quoting value =>
      obtain ⟨⟨hne, hkey⟩, hvalue⟩ := h
      rw [source, List.append_assoc, List.cons_append, read?_pair hne hkey,
        readValue?_append hvalue hrest]
      rfl

lemma forall_of_run? {p : Char → Bool} {text run rest : Text}
    (h : run? p text = some (run, rest)) : ∀ c ∈ run, p c = true := by
  unfold run? at h
  split at h
  · simp at h
  · rename_i c others hrun
    simp only [Option.some.injEq, Prod.mk.injEq] at h
    obtain ⟨rfl, -⟩ := h
    rw [← hrun]
    exact fun d hd => List.mem_takeWhile_imp hd

lemma admits_of_readValue? {text value rest : Text} {quoting : Quoting}
    (h : readValue? text = some (quoting, value, rest)) : quoting.Admits value := by
  unfold readValue? at h
  split at h
  · simp only [Option.map_eq_some_iff, Prod.mk.injEq, Prod.exists] at h
    obtain ⟨_, _, hcut, rfl, rfl, rfl⟩ := h
    exact (Text.cut?_eq_some hcut).2
  · simp only [Option.map_eq_some_iff, Prod.mk.injEq, Prod.exists] at h
    obtain ⟨_, _, hcut, rfl, rfl, rfl⟩ := h
    exact (Text.cut?_eq_some hcut).2
  · simp only [Option.map_eq_some_iff, Prod.mk.injEq, Prod.exists] at h
    obtain ⟨_, _, hrun, rfl, rfl, rfl⟩ := h
    exact ⟨(run?_eq_some hrun).2, forall_of_run? hrun⟩

/-- Only legal tokens are read. -/
lemma isLegal_of_read? {text rest : Text} {token : Token} (h : read? text = some (token, rest)) :
    token.IsLegal := by
  unfold read? at h
  split at h
  · simp only [Option.map_eq_some_iff, Prod.mk.injEq, Prod.exists] at h
    obtain ⟨_, _, hrun, rfl, rfl⟩ := h
    exact ⟨(run?_eq_some hrun).2, forall_of_run? hrun⟩
  · simp only [Option.map_eq_some_iff, Prod.mk.injEq, Prod.exists] at h
    obtain ⟨_, _, hrun, rfl, rfl⟩ := h
    exact ⟨(run?_eq_some hrun).2, forall_of_run? hrun⟩
  · split at h
    · rename_i hkey
      simp only [Option.map_eq_some_iff, Prod.mk.injEq, Prod.exists] at h
      obtain ⟨_, _, _, hvalue, rfl, rfl⟩ := h
      exact ⟨⟨(run?_eq_some hkey).2, forall_of_run? hkey⟩, admits_of_readValue? hvalue⟩
    · simp at h

/-! ### The ends of a token -/

/-- A token starts with a full stop, a number sign or a character of a key. -/
lemma IsLegal.exists_source {token : Token} (h : token.IsLegal) :
    ∃ c rest, token.source = c :: rest ∧ (c = '.' ∨ c = '#' ∨ isNameChar c = true) := by
  cases token with
  | cls name => exact ⟨_, _, rfl, Or.inl rfl⟩
  | id name => exact ⟨_, _, rfl, Or.inr (Or.inl rfl)⟩
  | pair key quoting value =>
      obtain ⟨⟨hne, hkey⟩, -⟩ := h
      obtain ⟨c, key, rfl⟩ := List.exists_cons_of_ne_nil hne
      exact ⟨c, _, rfl, Or.inr (Or.inr (hkey c List.mem_cons_self))⟩

lemma IsLegal.head_source {token : Token} (h : token.IsLegal) :
    ∃ c rest, token.source = c :: rest ∧ Text.isBlank c = false ∧ c ≠ '\x7b' := by
  obtain ⟨c, rest, hsource, rfl | rfl | hc⟩ := h.exists_source
  · exact ⟨_, rest, hsource, by decide, by decide⟩
  · exact ⟨_, rest, hsource, by decide, by decide⟩
  · refine ⟨c, rest, hsource, not_isBlank_of_isNameChar hc, ?_⟩
    rintro rfl
    exact absurd hc (by decide)

/-- No token ends in white space. -/
lemma IsLegal.getLast_source {token : Token} (h : token.IsLegal) :
    ∃ front c, token.source = front ++ [c] ∧ Text.isBlank c = false := by
  -- A last run of characters without blanks ends the token, whatever stands in front of it.
  have hend : ∀ {p : Char → Bool} (front run : Text), (∀ c, p c = true → Text.isBlank c = false) →
      run ≠ [] → (∀ c ∈ run, p c = true) →
      ∃ before c, front ++ run = before ++ [c] ∧ Text.isBlank c = false := by
    intro p front run hp hne hrun
    refine ⟨front ++ run.dropLast, run.getLast hne, ?_, hp _ (hrun _ (List.getLast_mem hne))⟩
    rw [List.append_assoc, List.dropLast_append_getLast]
  cases token with
  | cls name => exact hend ['.'] name (fun c => not_isBlank_of_isNameChar) h.1 h.2
  | id name => exact hend ['#'] name (fun c => not_isBlank_of_isIdChar) h.1 h.2
  | pair key quoting value =>
      cases quoting with
      | double => exact ⟨key ++ '=' :: '"' :: value, '"', by simp [source, quoted], by decide⟩
      | single => exact ⟨key ++ '=' :: '\x27' :: value, '\x27', by simp [source, quoted], by decide⟩
      | bare =>
          have hsource : (Token.pair key .bare value).source = (key ++ ['=']) ++ value := by
            simp [source, quoted]
          rw [hsource]
          exact hend _ value (fun c => not_isBlank_of_isBareChar) h.2.1 h.2.2

end Token

/-! ### Texts that spell tokens -/

/-- A run of white space, which may be empty. -/
def IsGap (text : Text) : Prop :=
  ∀ c ∈ text, Text.isBlank c = true

/-- **A text spells tokens**: legal tokens one after another, each with white space or the end
behind it, and with white space around them all. -/
inductive Spells : List Token → Text → Prop where
  | nil {gap : Text} : IsGap gap → Spells [] gap
  | cons {gap rest : Text} {token : Token} {tokens : List Token} : IsGap gap → token.IsLegal →
      Token.atBoundary rest = true → Spells tokens rest →
      Spells (token :: tokens) (gap ++ token.source ++ rest)

/-- **A written list** of tokens: a text that spells them, in braces with a colon or without. -/
def Written (tokens : List Token) (raw : Text) : Prop :=
  Spells tokens raw
    ∨ ∃ front inner back, IsGap front ∧ IsGap back ∧ Spells tokens inner
        ∧ raw = front ++ ('\x7b' :: ':' :: inner ++ ['\x7d']) ++ back

lemma IsGap.append {front back : Text} (hfront : IsGap front) (hback : IsGap back) :
    IsGap (front ++ back) :=
  List.forall_mem_append.mpr ⟨hfront, hback⟩

lemma IsGap.atBoundary {gap : Text} (h : IsGap gap) : Token.atBoundary gap = true := by
  cases gap with
  | nil => rfl
  | cons c gap => exact h c List.mem_cons_self

lemma atBoundary_append {front back : Text} (hfront : Token.atBoundary front = true)
    (hback : Token.atBoundary back = true) : Token.atBoundary (front ++ back) = true := by
  cases front with
  | nil => exact hback
  | cons c front => exact hfront

namespace Spells

variable {tokens : List Token} {text : Text}

lemma gap_append {gap : Text} (hgap : IsGap gap) (h : Spells tokens text) :
    Spells tokens (gap ++ text) := by
  cases h with
  | nil hother => exact .nil (hgap.append hother)
  | cons hother hlegal hrest htokens =>
      rw [← List.append_assoc, ← List.append_assoc]
      exact .cons (hgap.append hother) hlegal hrest htokens

lemma append_gap {gap : Text} (h : Spells tokens text) (hgap : IsGap gap) :
    Spells tokens (text ++ gap) := by
  induction h with
  | nil hother => exact .nil (hother.append hgap)
  | cons hother hlegal hrest _ ih =>
      rw [List.append_assoc]
      exact .cons hother hlegal (atBoundary_append hrest hgap.atBoundary) ih

lemma of_cons_blank {c : Char} (hc : Text.isBlank c = true) (h : Spells tokens (c :: text)) :
    Spells tokens text := by
  generalize hwhole : c :: text = whole at h
  cases h with
  | nil hgap =>
      subst hwhole
      exact .nil fun d hd => hgap d (List.mem_cons_of_mem c hd)
  | @cons gap rest token tokens hgap hlegal hrest htokens =>
      cases gap with
      | nil =>
          obtain ⟨d, source, hsource, hd, -⟩ := hlegal.head_source
          rw [hsource] at hwhole
          rw [(List.cons.inj hwhole).1] at hc
          exact absurd hc (by rw [hd]; exact Bool.false_ne_true)
      | cons d gap =>
          obtain ⟨-, rfl⟩ := List.cons.inj hwhole
          exact .cons (fun e he => hgap e (List.mem_cons_of_mem d he)) hlegal hrest htokens

lemma of_append_blank {c : Char} (hc : Text.isBlank c = true) (h : Spells tokens (text ++ [c])) :
    Spells tokens text := by
  generalize hwhole : text ++ [c] = whole at h
  induction h generalizing text with
  | nil hgap =>
      subst hwhole
      exact .nil fun d hd => hgap d (List.mem_append_left _ hd)
  | @cons gap rest token tokens hgap hlegal hrest htokens ih =>
      -- The blank is not the end of the token, so it is the end of what follows the token.
      rcases List.eq_nil_or_concat rest with rfl | ⟨others, d, rfl⟩
      · obtain ⟨front, d, hsource, hd⟩ := hlegal.getLast_source
        rw [hsource, List.append_nil, ← List.append_assoc] at hwhole
        rw [(List.append_inj' hwhole rfl).2 |> List.cons.inj |>.1] at hc
        exact absurd hc (by rw [hd]; exact Bool.false_ne_true)
      · rw [List.concat_eq_append] at hwhole hrest ih
        rw [← List.append_assoc] at hwhole
        obtain ⟨rfl, hcd⟩ := List.append_inj' hwhole rfl
        refine .cons hgap hlegal ?_ (ih (by rw [hcd]))
        cases others with
        | nil => rfl
        | cons e others => exact hrest

lemma of_gap_append {gap : Text} (hgap : IsGap gap) (h : Spells tokens (gap ++ text)) :
    Spells tokens text := by
  induction gap with
  | nil => exact h
  | cons c gap ih =>
      exact ih (fun d hd => hgap d (List.mem_cons_of_mem c hd))
        (of_cons_blank (hgap c List.mem_cons_self) h)

lemma of_append_gap {gap : Text} (hgap : IsGap gap) (h : Spells tokens (text ++ gap)) :
    Spells tokens text := by
  induction gap using List.reverseRecOn with
  | nil => rwa [List.append_nil] at h
  | append_singleton gap c ih =>
      rw [← List.append_assoc] at h
      exact ih (fun d hd => hgap d (List.mem_append_left _ hd))
        (of_append_blank (hgap c (List.mem_append_right _ List.mem_cons_self)) h)

/-- White space at the ends does not count. -/
lemma trim_iff : Spells tokens (Text.trim Text.isBlank text) ↔ Spells tokens text := by
  obtain ⟨front, back, htext, hfront, hback⟩ := Text.exists_trim Text.isBlank text
  constructor
  · intro h
    rw [htext]
    exact (h.gap_append hfront).append_gap hback
  · intro h
    rw [htext] at h
    exact (h.of_append_gap hback).of_gap_append hfront

/-- No text that spells tokens starts with a brace. -/
lemma head_ne_brace {rest : Text} : ¬ Spells tokens ('\x7b' :: rest) := by
  intro h
  generalize hwhole : '\x7b' :: rest = whole at h
  cases h with
  | nil hgap =>
      subst hwhole
      exact absurd (hgap '\x7b' List.mem_cons_self) (by decide)
  | @cons gap others token tokens hgap hlegal hrest htokens =>
      cases gap with
      | nil =>
          obtain ⟨d, source, hsource, -, hd⟩ := hlegal.head_source
          rw [hsource] at hwhole
          exact hd (List.cons.inj hwhole).1.symm
      | cons d gap =>
          have hbrace := hgap d List.mem_cons_self
          rw [← (List.cons.inj hwhole).1] at hbrace
          exact absurd hbrace (by decide)

end Spells

/-! ### Cutting a text into tokens -/

lemma pieces_cons_blank {c : Char} (hc : Text.isBlank c = true) (rest : Text) :
    pieces (c :: rest) = pieces rest := by
  rw [pieces, if_pos hc]

lemma pieces_gap_append {gap : Text} (hgap : IsGap gap) (text : Text) :
    pieces (gap ++ text) = pieces text := by
  induction gap with
  | nil => rfl
  | cons c gap ih =>
      rw [List.cons_append, pieces_cons_blank (hgap c List.mem_cons_self),
        ih fun d hd => hgap d (List.mem_cons_of_mem c hd)]

lemma pieces_of_readWhole? {c : Char} {rest after : Text} {token : Token}
    (hc : Text.isBlank c = false) (h : Token.readWhole? (c :: rest) = some (token, after)) :
    pieces (c :: rest) = .token token :: pieces after := by
  rw [pieces, hc, if_neg Bool.false_ne_true]
  split
  · rename_i found others heq
    rw [h, Option.some.injEq, Prod.mk.injEq] at heq
    obtain ⟨rfl, rfl⟩ := heq
    rfl
  · rename_i heq
    simp [h] at heq

section

variable {token : Token} (h : token.IsLegal) {rest : Text} (hrest : Token.atBoundary rest = true)
include h hrest

lemma readWhole?_source_append : Token.readWhole? (token.source ++ rest) = some (token, rest) := by
  rw [Token.readWhole?, Token.read?_source h hrest]
  exact Option.filter_some_pos hrest

/-- A legal token in front of white space or the end is cut off. -/
lemma pieces_source_append : pieces (token.source ++ rest) = .token token :: pieces rest := by
  obtain ⟨c, source, hsource, hc, -⟩ := h.head_source
  have hread := readWhole?_source_append h hrest
  rw [hsource, List.cons_append] at hread ⊢
  exact pieces_of_readWhole? hc hread

end

/-- **Tokens are cut off** in front of white space and at the end, whatever follows. -/
lemma Spells.pieces_append {tokens : List Token} {text rest : Text} (h : Spells tokens text)
    (hrest : Token.atBoundary rest = true) :
    pieces (text ++ rest) = tokens.map Piece.token ++ pieces rest := by
  induction h with
  | nil hgap => exact pieces_gap_append hgap rest
  | cons hgap hlegal hafter _ ih =>
      rw [List.append_assoc, List.append_assoc, pieces_gap_append hgap,
        pieces_source_append hlegal (atBoundary_append hafter hrest), ih, List.map_cons,
        List.cons_append]

/-- Tokens that a text spells are what it is cut into. -/
lemma pieces_of_spells {tokens : List Token} {text : Text} (h : Spells tokens text) :
    pieces text = tokens.map Piece.token := by
  have hpieces := h.pieces_append (rfl : Token.atBoundary [] = true)
  rwa [List.append_nil, pieces, List.append_nil] at hpieces

/-- A text that is cut into tokens spells them. -/
lemma spells_of_pieces {tokens : List Token} {text : Text}
    (h : pieces text = tokens.map Piece.token) : Spells tokens text := by
  fun_induction pieces text generalizing tokens with
  | case1 =>
      obtain rfl := List.map_eq_nil_iff.mp h.symm
      exact .nil nofun
  | case2 c rest hc ih => exact (ih h).gap_append (List.forall_mem_singleton.mpr hc)
  | case3 c rest hc token after hread ih =>
      cases tokens with
      | nil => simp at h
      | cons first tokens =>
          rw [List.map_cons, List.cons.injEq, Piece.token.injEq] at h
          obtain ⟨rfl, htokens⟩ := h
          rw [Token.readWhole?, Option.filter_eq_some_iff] at hread
          have hspells : Spells (token :: tokens) ([] ++ token.source ++ after) :=
            .cons nofun (Token.isLegal_of_read? hread.1) hread.2 (ih htokens)
          rwa [List.nil_append, ← Token.read?_eq_some hread.1] at hspells
  | case4 c rest hc hread ih =>
      cases tokens with
      | nil => simp at h
      | cons first tokens => simp at h

/-- **A text spells tokens** if it is cut into them and nothing else. -/
lemma spells_iff_pieces {tokens : List Token} {text : Text} :
    Spells tokens text ↔ pieces text = tokens.map Piece.token :=
  ⟨pieces_of_spells, spells_of_pieces⟩

/-! ### Braces -/

lemma trim_braced {front inner back : Text} (hfront : IsGap front) (hback : IsGap back) :
    Text.trim Text.isBlank (front ++ ('\x7b' :: ':' :: inner ++ ['\x7d']) ++ back)
      = '\x7b' :: ':' :: (inner ++ ['\x7d']) := by
  refine Text.trim_append hfront hback (fun c hc => ?_) (fun c hc => ?_)
  · obtain rfl : '\x7b' = c := by simpa using hc
    decide
  · rw [List.getLast?_concat] at hc
    obtain rfl : '\x7d' = c := by simpa using hc
    decide

/-- A list is written in the tokens that it spells once its braces are taken off. -/
lemma spells_unwrap_iff {tokens : List Token} {raw : Text} :
    Spells tokens (unwrap raw) ↔ Written tokens raw := by
  rw [unwrap]
  split
  · rename_i rest htrim
    split
    · rename_i hlast
      obtain ⟨inner, hinner⟩ := List.getLast?_eq_some_iff.mp hlast
      subst hinner
      rw [List.dropLast_concat, Spells.trim_iff]
      constructor
      · intro h
        obtain ⟨front, back, hraw, hfront, hback⟩ := Text.exists_trim Text.isBlank raw
        rw [htrim] at hraw
        exact Or.inr ⟨front, inner, back, hfront, hback, h, by simpa using hraw⟩
      · -- The brace at the start rules out that the tokens stand there without braces.
        rintro (h | ⟨front, other, back, hfront, hback, h, rfl⟩)
        · rw [← Spells.trim_iff, htrim] at h
          exact absurd h Spells.head_ne_brace
        · rw [trim_braced hfront hback] at htrim
          have hsame : other = inner := by simpa using htrim
          rwa [← hsame]
    · rename_i hlast
      -- An opening brace alone stays where it is, and no token starts with it.
      constructor
      · exact fun h => absurd h Spells.head_ne_brace
      · rintro (h | ⟨front, inner, back, hfront, hback, h, rfl⟩)
        · rw [← Spells.trim_iff, htrim] at h
          exact absurd h Spells.head_ne_brace
        · rw [trim_braced hfront hback] at htrim
          have hrest : inner ++ ['\x7d'] = rest := by simpa using htrim
          exact absurd (by rw [← hrest]; simp) hlast
  · rename_i hbrace
    rw [Spells.trim_iff]
    constructor
    · exact Or.inl
    · rintro (h | ⟨front, inner, back, hfront, hback, h, rfl⟩)
      · exact h
      · exact absurd (trim_braced hfront hback) (hbrace (inner ++ ['\x7d']))

/-! ### The attributes of tokens -/

/-- **The attributes gathered** from tokens: the names in the order of their first mention, each with
its values in the order of the tokens. -/
def gathered (tokens : List Token) : Attributes :=
  (tokens.map Token.name).eraseDups.map fun name =>
    (name, (tokens.filter fun token => token.name = name).map Token.value)

lemma names_gathered (tokens : List Token) :
    (gathered tokens).names = (tokens.map Token.name).eraseDups := by
  rw [gathered, Entries.names, List.map_map]
  exact List.map_id _

/-- The token that a piece of a list is. -/
def Piece.token? : Piece → Option Token
  | .token found => some found
  | .illegal _ => none

/-- The complaint about a piece of a list. -/
def Piece.complaint? : Piece → Option Text
  | .token _ => none
  | .illegal word => some (complaint word)

section

variable {names : List Text} {name : Text}

lemma eraseDups_concat_of_mem (h : name ∈ names) : (names ++ [name]).eraseDups = names.eraseDups := by
  rw [List.eraseDups_append]
  simp [List.removeAll, h]

lemma eraseDups_concat_of_notMem (h : name ∉ names) :
    (names ++ [name]).eraseDups = names.eraseDups ++ [name] := by
  rw [List.eraseDups_append]
  simp [List.removeAll, h, List.eraseDups_cons]

lemma nodup_eraseDups (names : List Text) : names.eraseDups.Nodup := by
  induction names using List.reverseRecOn with
  | nil => exact List.nodup_nil
  | append_singleton names name ih =>
      by_cases h : name ∈ names
      · rwa [eraseDups_concat_of_mem h]
      · rw [eraseDups_concat_of_notMem h, ← List.concat_eq_append]
        exact ih.concat fun hmem => h (List.mem_eraseDups.mp hmem)

/-- A value goes to the end of the values of its name. -/
lemma append_map_of_mem {values : Text → List Text} (hnodup : names.Nodup) (h : name ∈ names)
    (value : Text) :
    Entries.append name value (names.map fun n => (n, values n))
      = names.map fun n => (n, if n = name then values n ++ [value] else values n) := by
  induction names with
  | nil => simp at h
  | cons first names ih =>
      rw [List.nodup_cons] at hnodup
      by_cases hfirst : first = name
      · subst hfirst
        have hrest : ∀ n ∈ names, n ≠ first := by
          rintro n hn rfl
          exact hnodup.1 hn
        rw [List.map_cons, Entries.append, if_pos rfl, List.map_cons, if_pos rfl]
        exact congrArg _ (List.map_congr_left fun n hn => by rw [if_neg (hrest n hn)])
      · rw [List.map_cons, Entries.append, if_neg hfirst, List.map_cons, if_neg hfirst,
          ih hnodup.2 ((List.mem_cons.mp h).resolve_left (Ne.symm hfirst))]

end

/-- One token more. -/
lemma gathered_concat (tokens : List Token) (token : Token) :
    gathered (tokens ++ [token]) = (gathered tokens).append token.name token.value := by
  have hvalues : ∀ name, ((tokens ++ [token]).filter fun t => t.name = name).map Token.value
      = if name = token.name
        then (tokens.filter fun t => t.name = name).map Token.value ++ [token.value]
        else (tokens.filter fun t => t.name = name).map Token.value := by
    intro name
    by_cases h : name = token.name
    · simp [List.filter_append, h]
    · simp [List.filter_append, h, Ne.symm h]
  rw [gathered, List.map_append, List.map_singleton]
  simp only [hvalues]
  -- A name that was seen before keeps its place, a new one goes to the end.
  by_cases hmem : token.name ∈ tokens.map Token.name
  · rw [eraseDups_concat_of_mem hmem, gathered,
      append_map_of_mem (nodup_eraseDups _) (List.mem_eraseDups.mpr hmem)]
  · have hnone : (tokens.filter fun t => t.name = token.name) = [] := by
      rw [List.filter_eq_nil_iff]
      intro t ht
      rw [decide_eq_true_eq]
      exact fun hname => hmem (List.mem_map.mpr ⟨t, ht, hname⟩)
    have hold : ∀ name ∈ (tokens.map Token.name).eraseDups, name ≠ token.name := by
      rintro name hname rfl
      exact hmem (List.mem_eraseDups.mp hname)
    have hnew : token.name ∉ (gathered tokens).names := by
      rw [gathered, Entries.names, List.map_map]
      rintro hname
      obtain ⟨name, hname, heq⟩ := List.mem_map.mp hname
      exact hold name hname heq
    rw [Entries.append_of_notMem hnew, eraseDups_concat_of_notMem hmem, gathered, List.map_append,
      List.map_singleton, if_pos rfl, hnone]
    exact congrArg (· ++ _) (List.map_congr_left fun name hname => by rw [if_neg (hold name hname)])

/-- **What a list is read as**: the attributes gathered from its tokens, and the complaints about its
illegal words. -/
lemma readList_eq (raw : Text) :
    readList raw
      = ⟨gathered ((pieces (unwrap raw)).filterMap Piece.token?),
          (pieces (unwrap raw)).filterMap Piece.complaint?⟩ := by
  rw [readList]
  generalize pieces (unwrap raw) = all
  induction all using List.reverseRecOn with
  | nil => rfl
  | append_singleton front piece ih =>
      rw [List.foldl_append, ih, List.filterMap_append, List.filterMap_append]
      cases piece with
      | token token =>
          have htoken : [Piece.token token].filterMap Piece.token? = [token] := rfl
          rw [htoken, gathered_concat]
          simp [Reading.add, Piece.complaint?]
      | illegal word =>
          have hnone : [Piece.illegal word].filterMap Piece.token? = [] := rfl
          rw [hnone, List.append_nil]
          simp [Reading.add, Piece.complaint?]

lemma filterMap_token?_map (tokens : List Token) :
    (tokens.map Piece.token).filterMap Piece.token? = tokens := by
  rw [List.filterMap_map]
  exact List.filterMap_some

lemma filterMap_complaint?_map (tokens : List Token) :
    (tokens.map Piece.token).filterMap Piece.complaint? = [] := by
  rw [List.filterMap_map]
  exact List.filterMap_eq_nil_iff.mpr fun _ _ => rfl

/-- Pieces without a complaint are tokens. -/
lemma exists_tokens {all : List Piece} (h : all.filterMap Piece.complaint? = []) :
    ∃ tokens : List Token, all = tokens.map Piece.token := by
  refine ⟨all.filterMap Piece.token?, ?_⟩
  induction all with
  | nil => rfl
  | cons piece rest ih =>
      cases piece with
      | token token =>
          exact congrArg (Piece.token token :: ·) (ih h)
      | illegal word => simp [Piece.complaint?] at h

/-! ### Lists without complaints -/

/-- A list in which tokens are written is read as the attributes gathered from them. -/
lemma readList_of_written {tokens : List Token} {raw : Text} (h : Written tokens raw) :
    readList raw = ⟨gathered tokens, []⟩ := by
  rw [readList_eq, pieces_of_spells (spells_unwrap_iff.mpr h), filterMap_token?_map,
    filterMap_complaint?_map]

lemma exists_written {raw : Text} (h : (readList raw).complaints = []) :
    ∃ tokens, Written tokens raw := by
  rw [readList_eq] at h
  obtain ⟨tokens, htokens⟩ := exists_tokens h
  exact ⟨tokens, spells_unwrap_iff.mp (spells_of_pieces htokens)⟩

/-- A list is written in one way only. -/
lemma Written.unique {tokens others : List Token} {raw : Text} (h : Written tokens raw)
    (hothers : Written others raw) : others = tokens := by
  rw [← spells_unwrap_iff, spells_iff_pieces] at h hothers
  exact List.map_injective_iff.mpr (fun _ _ => Piece.token.inj) (hothers.symm.trans h)

/-- **The reader against the grammar**: there are no complaints about a list if and only if it is
written in tokens. Then it is written in these tokens only, and its attributes are those gathered
from them. -/
theorem readList_written (raw : Text) :
    ((readList raw).complaints = [] ↔ ∃ tokens, Written tokens raw)
    ∧ ∀ tokens, Written tokens raw →
        (∀ others, Written others raw → others = tokens)
        ∧ (readList raw).attributes = gathered tokens := by
  refine ⟨⟨exists_written, ?_⟩, fun tokens h => ⟨fun others => h.unique, ?_⟩⟩
  · rintro ⟨tokens, h⟩
    rw [readList_of_written h]
  · rw [readList_of_written h]

/-- A list in braces: quoted values keep their white space, the values of a class come together. -/
theorem readList_written_braced :
    Written [.cls "a", .pair "k" .single "x \"y", .cls "b"] "\x7b: .a k='x \"y'  .b\x7d"
    ∧ (∀ others, Written others "\x7b: .a k='x \"y'  .b\x7d" →
        others = [.cls "a", .pair "k" .single "x \"y", .cls "b"])
    ∧ (readList "\x7b: .a k='x \"y'  .b\x7d").complaints = []
    ∧ (readList "\x7b: .a k='x \"y'  .b\x7d").attributes
      = ([("class", ["a", "b"]), ("k", ["x \"y"])] : List (Text × List Text)) := by
  have hwritten : Written [.cls "a", .pair "k" .single "x \"y", .cls "b"]
      "\x7b: .a k='x \"y'  .b\x7d" :=
    spells_unwrap_iff.mp (spells_iff_pieces.mpr (by decide +kernel))
  obtain ⟨hunique, hattributes⟩ := (readList_written "\x7b: .a k='x \"y'  .b\x7d").2 _ hwritten
  refine ⟨hwritten, hunique, (readList_written _).1.mpr ⟨_, hwritten⟩, hattributes.trans ?_⟩
  cbv

end BlockTree.Attributes
