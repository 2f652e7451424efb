import BlockTree.Proofs.Escaping
import BlockTree.Render.Leaf

/-!
References that stand for single characters, and texts written with them.

* `AmpersandsBegin`: every ampersand of a text begins a reference of some kind.
* `ReferenceTable`: characters with their references. The ampersand has one itself, it occurs only
  at the beginning of references, and none of them begins with another.
* `ReferenceTable.encode` writes each character for itself; `ReferenceTable.decode` reads a text from
  left to right, a reference at a time. `decode_encode`: reading undoes writing.
* `encode_eq_self_iff` and `decode_eq_self_iff`: the texts that writing or reading does not change.
* `foldl_replaceAll`: replacing one character after the other in the whole text writes each for
  itself, if no reference holds a character whose turn is still to come.
* `escape_every_reversible`: escaping with every ampersand is writing with the references of the five
  special characters.
-/

namespace BlockTree.Entity

/-! ### Ampersands -/

/-- **Every ampersand of a text begins a reference** of some kind. -/
def AmpersandsBegin (IsReference : Text → Prop) (text : Text) : Prop :=
  ∀ before after, text = before ++ '&' :: after →
    ∃ reference, IsReference reference ∧ reference <+: '&' :: after

namespace AmpersandsBegin

variable {IsReference : Text → Prop} {text : Text}

lemma nil : AmpersandsBegin IsReference [] := fun _ _ h => by simp at h

lemma tail {c : Char} (h : AmpersandsBegin IsReference (c :: text)) :
    AmpersandsBegin IsReference text :=
  fun before after htext => h (c :: before) after (by rw [htext, List.cons_append])

lemma cons_of_ne {c : Char} (hc : c ≠ '&') (h : AmpersandsBegin IsReference text) :
    AmpersandsBegin IsReference (c :: text) := by
  intro before after htext
  cases before with
  | nil => exact absurd (List.cons.inj htext).1 hc
  | cons d before => exact h before after (List.cons.inj htext).2

lemma cons_of_reference {reference : Text} (href : IsReference reference)
    (hstart : reference <+: '&' :: text) (h : AmpersandsBegin IsReference text) :
    AmpersandsBegin IsReference ('&' :: text) := by
  intro before after htext
  cases before with
  | nil =>
      rw [List.nil_append] at htext
      exact ⟨reference, href, htext ▸ hstart⟩
  | cons d before => exact h before after (List.cons.inj htext).2

lemma append_of_notMem {front : Text} (hfront : '&' ∉ front)
    (h : AmpersandsBegin IsReference text) : AmpersandsBegin IsReference (front ++ text) := by
  induction front with
  | nil => exact h
  | cons c front ih =>
      rw [List.mem_cons, not_or] at hfront
      exact (ih hfront.2).cons_of_ne (Ne.symm hfront.1)

/-- A reference may stand in front, whose name holds no further ampersand. -/
lemma reference_append {name : Text} (href : IsReference ('&' :: name)) (hname : '&' ∉ name)
    (h : AmpersandsBegin IsReference text) :
    AmpersandsBegin IsReference ('&' :: name ++ text) :=
  (h.append_of_notMem hname).cons_of_reference href (List.prefix_append _ text)

lemma mono {IsOther : Text → Prop} (himp : ∀ reference, IsReference reference → IsOther reference)
    (h : AmpersandsBegin IsReference text) : AmpersandsBegin IsOther text := fun before after htext =>
  let ⟨reference, href, hstart⟩ := h before after htext
  ⟨reference, himp reference href, hstart⟩

end AmpersandsBegin

/-! ### Tables -/

/-- **A table of references**: each begins with its only ampersand, none is the beginning of another,
and the ampersand has one too. -/
structure ReferenceTable where
  entries : List (Char × Text)
  ampersand_mem : '&' ∈ entries.map Prod.fst
  reference : ∀ entry ∈ entries, entry.2.head? = some '&' ∧ '&' ∉ entry.2.tail
  apart : ∀ entry ∈ entries, ∀ other ∈ entries, entry.2 <+: other.2 → entry = other

namespace ReferenceTable

/-- What a character is written as. -/
def write (entries : List (Char × Text)) (c : Char) : Text :=
  (entries.lookup c).getD [c]

/-- **The text with each character written for itself**. -/
def encode (table : ReferenceTable) (text : Text) : Text :=
  text.flatMap (write table.entries)

/-- Reads a text from left to right, behind as many characters as are left of a reference. -/
def decodeFrom (entries : List (Char × Text)) : Nat → Text → Text
  | _, [] => []
  | left + 1, _ :: rest => decodeFrom entries left rest
  | 0, c :: rest =>
    match entries.find? fun entry => entry.2.isPrefixOf (c :: rest) with
    | some entry => entry.1 :: decodeFrom entries (entry.2.length - 1) rest
    | none => c :: decodeFrom entries 0 rest

/-- **The text with each reference read** as the character that it stands for, in a single pass from
left to right. -/
def decode (table : ReferenceTable) (text : Text) : Text :=
  decodeFrom table.entries 0 text

variable (table : ReferenceTable)

lemma exists_cons {entry : Char × Text} (h : entry ∈ table.entries) :
    ∃ name, entry.2 = '&' :: name ∧ '&' ∉ name := by
  obtain ⟨hhead, htail⟩ := table.reference entry h
  refine ⟨entry.2.tail, ?_, htail⟩
  exact (List.cons_head?_tail hhead).symm

/-- A character without an entry stays. -/
lemma write_of_notMem {entries : List (Char × Text)} {c : Char} (h : c ∉ entries.map Prod.fst) :
    write entries c = [c] := by
  have hnone : entries.lookup c = none := by
    rw [List.lookup_eq_none_iff]
    rintro entry hentry
    rw [bne_iff_ne]
    rintro rfl
    exact h (List.mem_map_of_mem hentry)
  rw [write, hnone, Option.getD_none]

lemma exists_write_of_mem {entries : List (Char × Text)} {c : Char}
    (h : c ∈ entries.map Prod.fst) : ∃ entry ∈ entries, write entries c = entry.2 := by
  rw [write]
  cases hlookup : entries.lookup c with
  | none =>
      obtain ⟨entry, hentry, rfl⟩ := List.mem_map.mp h
      simpa using List.lookup_eq_none_iff.mp hlookup entry hentry
  | some reference =>
      obtain ⟨front, back, hsplit, -⟩ := List.lookup_eq_some_iff.mp hlookup
      exact ⟨(c, reference), by simp [hsplit], rfl⟩

/-- A character is written as the reference of its entry, or it has none and stays. -/
lemma write_cases (c : Char) :
    (∃ entry ∈ table.entries, entry.1 = c ∧ write table.entries c = entry.2)
      ∨ c ≠ '&' ∧ write table.entries c = [c] := by
  rw [write]
  cases hlookup : table.entries.lookup c with
  | some reference =>
      obtain ⟨front, back, hsplit, -⟩ := List.lookup_eq_some_iff.mp hlookup
      exact Or.inl ⟨(c, reference), by simp [hsplit], rfl, rfl⟩
  | none =>
      refine Or.inr ⟨?_, rfl⟩
      rintro rfl
      obtain ⟨entry, hentry, hampersand⟩ := List.mem_map.mp table.ampersand_mem
      have := List.lookup_eq_none_iff.mp hlookup entry hentry
      simp [hampersand] at this

/-- Only the entry of a reference is found where the reference stands. -/
lemma find?_append {entry : Char × Text} (h : entry ∈ table.entries) (rest : Text) :
    table.entries.find? (fun other => other.2.isPrefixOf (entry.2 ++ rest)) = some entry := by
  cases hfind : table.entries.find? fun other => other.2.isPrefixOf (entry.2 ++ rest) with
  | none =>
      have := List.find?_eq_none.mp hfind entry h
      simp at this
  | some other =>
      have hother := List.mem_of_find?_eq_some hfind
      have hstart : other.2 <+: entry.2 ++ rest := by simpa using List.find?_some hfind
      rcases List.prefix_or_prefix_of_prefix hstart (List.prefix_append _ rest) with hle | hge
      · rw [table.apart other hother entry h hle]
      · rw [table.apart entry h other hother hge]

/-- Where no ampersand stands, no reference does. -/
lemma find?_eq_none {c : Char} (h : c ≠ '&') (rest : Text) :
    table.entries.find? (fun entry => entry.2.isPrefixOf (c :: rest)) = none := by
  rw [List.find?_eq_none]
  intro entry hentry hstart
  obtain ⟨name, hname, -⟩ := table.exists_cons hentry
  rw [hname, List.isPrefixOf_cons_cons, Bool.and_eq_true, beq_iff_eq] at hstart
  exact h hstart.1.symm

lemma decodeFrom_append (entries : List (Char × Text)) (front rest : Text) :
    decodeFrom entries front.length (front ++ rest) = decodeFrom entries 0 rest := by
  induction front with
  | nil => rfl
  | cons c front ih =>
      rw [List.length_cons, List.cons_append, decodeFrom]
      exact ih

/-- **Reading undoes writing**. -/
theorem decode_encode (text : Text) : table.decode (table.encode text) = text := by
  induction text with
  | nil => rfl
  | cons c text ih =>
      rw [encode, List.flatMap_cons, ← encode, decode]
      rw [decode] at ih
      rcases table.write_cases c with ⟨entry, hentry, rfl, hwrite⟩ | ⟨hc, hwrite⟩
      · obtain ⟨name, hname, -⟩ := table.exists_cons hentry
        have hfind := table.find?_append hentry (table.encode text)
        rw [hwrite, hname, List.cons_append]
        rw [hname, List.cons_append] at hfind
        rw [decodeFrom, hfind]
        simp only [hname, List.length_cons, Nat.add_sub_cancel, decodeFrom_append, ih]
      · rw [hwrite, List.singleton_append, decodeFrom, table.find?_eq_none hc]
        simp only [ih]

lemma encode_injective : Function.Injective table.encode :=
  Function.LeftInverse.injective table.decode_encode

lemma encode_append (front back : Text) :
    table.encode (front ++ back) = table.encode front ++ table.encode back :=
  List.flatMap_append

/-- **Every ampersand of a written text** begins a reference. -/
theorem ampersandsBegin_encode (text : Text) :
    AmpersandsBegin (· ∈ table.entries.map Prod.snd) (table.encode text) := by
  induction text with
  | nil => exact .nil
  | cons c text ih =>
      rw [encode, List.flatMap_cons, ← encode]
      rcases table.write_cases c with ⟨entry, hentry, -, hwrite⟩ | ⟨hc, hwrite⟩
      · obtain ⟨name, hname, hnotMem⟩ := table.exists_cons hentry
        have hmem : '&' :: name ∈ table.entries.map Prod.snd :=
          hname ▸ List.mem_map_of_mem hentry
        rw [hwrite, hname]
        exact ih.reference_append hmem hnotMem
      · rw [hwrite, List.singleton_append]
        exact ih.cons_of_ne hc

lemma length_le_encode (text : Text) : text.length ≤ (table.encode text).length := by
  induction text with
  | nil => exact Nat.zero_le _
  | cons c text ih =>
      have hwrite : 0 < (write table.entries c).length := by
        rcases table.write_cases c with ⟨entry, hentry, -, hwrite⟩ | ⟨-, hwrite⟩
        · obtain ⟨name, hname, -⟩ := table.exists_cons hentry
          rw [hwrite, hname]
          exact Nat.succ_pos _
        · rw [hwrite]
          exact Nat.one_pos
      rw [encode, List.flatMap_cons, ← encode, List.length_append, List.length_cons]
      omega

/-- **The texts that are written as themselves** hold no character with a reference, if each
reference is longer than a character. -/
lemma encode_eq_self_iff (h : ∀ entry ∈ table.entries, 1 < entry.2.length) {text : Text} :
    table.encode text = text ↔ ∀ c ∈ text, c ∉ table.entries.map Prod.fst := by
  constructor
  · intro heq
    induction text with
    | nil => exact nofun
    | cons c text ih =>
        rw [encode, List.flatMap_cons, ← encode] at heq
        have hc : c ∉ table.entries.map Prod.fst := by
          intro hmem
          obtain ⟨entry, hentry, hwrite⟩ := exists_write_of_mem hmem
          have hlength := congrArg List.length heq
          rw [hwrite, List.length_append, List.length_cons] at hlength
          have hlong := h entry hentry
          have hrest := table.length_le_encode text
          omega
        rw [write_of_notMem hc] at heq
        exact List.forall_mem_cons.mpr ⟨hc, ih (List.cons.inj heq).2⟩
  · intro hnone
    rw [encode, List.flatMap_congr fun c hc => write_of_notMem (hnone c hc),
      List.flatMap_singleton']

lemma length_decodeFrom_le (entries : List (Char × Text)) (left : Nat) (text : Text) :
    (decodeFrom entries left text).length ≤ text.length := by
  fun_induction decodeFrom entries left text with
  | case1 => exact Nat.zero_le _
  | case2 left c rest ih => exact ih.trans (Nat.le_succ _)
  | case3 c rest entry _ ih => exact Nat.succ_le_succ ih
  | case4 c rest _ ih => exact Nat.succ_le_succ ih

/-- **The texts that are read as themselves** hold no reference, if each reference is longer than a
character. -/
lemma decode_eq_self_iff (h : ∀ entry ∈ table.entries, 1 < entry.2.length) {text : Text} :
    table.decode text = text ↔ ∀ entry ∈ table.entries, ¬ entry.2 <:+: text := by
  rw [decode]
  induction text with
  | nil =>
      refine iff_of_true rfl fun entry hentry hfound => ?_
      have hlong := h entry hentry
      rw [List.infix_nil.mp hfound] at hlong
      exact absurd hlong (by decide)
  | cons c rest ih =>
      rw [decodeFrom]
      split
      · rename_i entry hfind
        have hentry := List.mem_of_find?_eq_some hfind
        have hstart : entry.2 <+: c :: rest := by simpa using List.find?_some hfind
        refine iff_of_false (fun heq => ?_) fun hnone => hnone entry hentry hstart.isInfix
        -- A reference that is read makes the text shorter.
        have hlong := h entry hentry
        have hlength := congrArg List.length heq
        rw [List.length_cons, List.length_cons] at hlength
        cases rest with
        | nil => exact absurd hstart.length_le (by simpa using hlong)
        | cons d rest =>
            obtain ⟨left, hleft⟩ : ∃ left, entry.2.length - 1 = left + 1 :=
              ⟨entry.2.length - 2, by omega⟩
            have hle := length_decodeFrom_le table.entries left rest
            rw [hleft, decodeFrom, List.length_cons] at hlength
            omega
      · rename_i hfind
        have hstart : ∀ entry ∈ table.entries, ¬ entry.2 <+: c :: rest := by
          simpa using List.find?_eq_none.mp hfind
        rw [List.cons.injEq, eq_self_iff_true, true_and, ih]
        refine forall₂_congr fun entry hentry => not_congr ?_
        rw [List.infix_cons_iff, or_iff_right (hstart entry hentry)]

end ReferenceTable

/-! ### One character after the other -/

/-- The text with a character replaced wherever it occurs. -/
def replaceAll (text : Text) (entry : Char × Text) : Text :=
  text.flatMap fun c => if c = entry.1 then entry.2 else [c]

/-- **Replacing one character after the other** writes each for itself, if no reference holds a
character whose turn is still to come. -/
lemma foldl_replaceAll {entries : List (Char × Text)}
    (h : entries.Pairwise fun entry later => later.1 ∉ entry.2) (text : Text) :
    entries.foldl replaceAll text = text.flatMap (ReferenceTable.write entries) := by
  induction entries generalizing text with
  | nil => exact (List.flatMap_singleton' text).symm
  | cons entry rest ih =>
      obtain ⟨hentry, hrest⟩ := List.pairwise_cons.mp h
      have hstays : ∀ d ∈ entry.2, ReferenceTable.write rest d = [d] := by
        intro d hd
        refine ReferenceTable.write_of_notMem fun hmem => ?_
        obtain ⟨later, hlater, rfl⟩ := List.mem_map.mp hmem
        exact hentry later hlater hd
      have hchar : ∀ c, (if c = entry.1 then entry.2 else [c]).flatMap (ReferenceTable.write rest)
          = ReferenceTable.write (entry :: rest) c := by
        intro c
        rw [ReferenceTable.write, List.lookup_cons]
        split
        · rename_i hc
          rw [hc, beq_self_eq_true, List.flatMap_congr hstays, List.flatMap_singleton']
          rfl
        · rename_i hc
          rw [beq_eq_false_iff_ne.mpr hc, List.flatMap_singleton, ReferenceTable.write]
      rw [List.foldl_cons, ih hrest, replaceAll, List.flatMap_assoc]
      exact List.flatMap_congr fun c _ => hchar c

/-! ### Escaping -/

/-- The special characters other than the ampersand, with their references. -/
def marks : List (Char × Text) :=
  [('<', "&lt;"), ('>', "&gt;"), ('"', "&quot;"), ('\x27', "&#39;")]

/-- The special characters with their references. -/
def specials : ReferenceTable where
  entries := ('&', "&amp;") :: marks
  ampersand_mem := by decide
  reference := by decide
  apart := by decide

lemma ofSpecial_eq_write (c : Char) : ofSpecial c = ReferenceTable.write marks c := by
  rw [ofSpecial]
  split_ifs with hlt hgt hquot hapos
  · rw [hlt]
    rfl
  · rw [hgt]
    rfl
  · rw [hquot]
    rfl
  · rw [hapos]
    rfl
  · have hnone : c ∉ marks.map Prod.fst := by simp [marks, hlt, hgt, hquot, hapos]
    rw [ReferenceTable.write_of_notMem hnone]

/-- Behind the ampersands, the other special characters are replaced one after the other. -/
lemma escape_eq_replacements (every : Bool) (text : Text) :
    escape every text = marks.foldl replaceAll (escapeAmpersands every text) := by
  rw [escape, foldl_replaceAll (by decide)]
  exact List.flatMap_congr fun c _ => ofSpecial_eq_write c

lemma escapeAmpersands_every (text : Text) :
    escapeAmpersands true text = replaceAll text ('&', "&amp;") := by
  induction text with
  | nil => rfl
  | cons c text ih =>
      rw [escapeAmpersands, ih, replaceAll, replaceAll, List.flatMap_cons]
      rw [Bool.true_or, Bool.and_true]
      by_cases hc : c = '&'
      · rw [if_pos (decide_eq_true hc), if_pos hc]
      · rw [if_neg (fun h => hc (of_decide_eq_true h)), if_neg hc, List.singleton_append]

lemma escape_every_eq_replacements (text : Text) :
    escape true text = specials.entries.foldl replaceAll text := by
  rw [escape_eq_replacements, escapeAmpersands_every]
  rfl

lemma escape_every_eq_encode (text : Text) : escape true text = specials.encode text := by
  rw [escape_every_eq_replacements, foldl_replaceAll (by decide)]
  rfl

lemma escape_every_join (lines : List Text) :
    Text.join "\n" (lines.map (escape true)) = escape true (Text.join "\n" lines) := by
  induction lines with
  | nil => rfl
  | cons line rest ih =>
      cases rest with
      | nil => rfl
      | cons second rest =>
          rw [Text.join_cons_cons, List.map_cons, List.map_cons, Text.join_cons_cons, ← List.map_cons,
            ih]
          simp only [escape_every_eq_encode, ReferenceTable.encode_append]
          rfl

/-- **Escaping every ampersand** writes each special character as its reference, which is what
replacing them one after the other does; nothing else of them is left, and every ampersand begins one
of the references. A single pass gives the text back, different texts stay different, and texts can be
escaped in parts: so the content of a code block is the text of its lines, escaped. -/
theorem escape_every_reversible (text : Text) :
    escape true text = specials.encode text
      ∧ escape true text = specials.entries.foldl replaceAll text
      ∧ (∀ c ∈ escape true text, isInert c = true)
      ∧ AmpersandsBegin (· ∈ specials.entries.map Prod.snd) (escape true text)
      ∧ specials.decode (escape true text) = text
      ∧ (∀ other, escape true text = escape true other → text = other)
      ∧ (∀ other, escape true (text ++ other) = escape true text ++ escape true other)
      ∧ (∀ lines, Text.join "\n" (lines.map (escape true)) = escape true (Text.join "\n" lines))
      ∧ ∀ language classPrefix lines, codeHtml language classPrefix lines
          = "<pre><code" ++ codeClassAttribute language classPrefix ++ ">"
            ++ escape true (Text.join "\n" lines) ++ "</code></pre>\n" := by
  have hencode := escape_every_eq_encode
  refine ⟨hencode text, escape_every_eq_replacements text, fun c hc => isInert_of_mem_escape hc,
    ?_, ?_, fun other h => ?_, fun other => ?_, escape_every_join,
    fun language classPrefix lines => ?_⟩
  · rw [hencode]
    exact specials.ampersandsBegin_encode text
  · rw [hencode, specials.decode_encode]
  · rw [hencode, hencode] at h
    exact specials.encode_injective h
  · rw [hencode, hencode, hencode, specials.encode_append]
  · unfold codeHtml
    rw [escape_every_join]

example : specials.decode "&amp;lt;&#39;" = "&lt;\x27".toList := by decide

end BlockTree.Entity
