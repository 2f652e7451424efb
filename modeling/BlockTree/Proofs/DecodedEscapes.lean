import BlockTree.Proofs.Decoding
import BlockTree.Proofs.KeptReferences

/-!
Escaped texts that are decoded.

* `escape_every_readsAs`: with every ampersand escaped, each special character is read as the name
  of its reference, and the apostrophe as itself.
* `references_ind`: induction along the references of a text, which are those that escaping keeps.
* `IsFaulty`: the names in numeric references that stand for no character; `isFaulty_iff`: exactly
  these have no numeral of one.
* `Holds`: the numeric references in a text, from left to right.
* `escape_tells`: decoding is refused exactly at a numeric reference of the text that is refused.
* `unescape_escape`: both kinds of escaping, and what becomes of the text.
-/

namespace BlockTree.Entity

/-! ### Every ampersand escaped -/

/-- The special characters whose references are not decoded. -/
def named : ReferenceTable where
  entries := [('&', "&amp;"), ('<', "&lt;"), ('>', "&gt;"), ('"', "&quot;")]
  ampersand_mem := by decide
  reference := by decide
  apart := by decide

/-- The reference of the apostrophe is a numeral. -/
lemma readsAs_apostrophe : ReadsAs "&#39;" ['\x27'] := by
  have hnumeral : Base.decimal.IsNumeral "39" ('\x27').toNat := ⟨0, by decide⟩
  exact .numeral hnumeral fun _ => by decide

lemma readsAs_of_mem_named {entry : Char × Text} (h : entry ∈ named.entries) :
    ReadsAs entry.2 entry.2 := by
  simp only [named, List.mem_cons, List.not_mem_nil, or_false] at h
  rcases h with rfl | rfl | rfl | rfl
  · exact .named (show "amp".toList ≠ [] by decide) (by decide) (by decide)
  · exact .named (show "lt".toList ≠ [] by decide) (by decide) (by decide)
  · exact .named (show "gt".toList ≠ [] by decide) (by decide) (by decide)
  · exact .named (show "quot".toList ≠ [] by decide) (by decide) (by decide)

/-- **An escaped character** is read as its reference by name, or as itself. -/
lemma readsAs_write (c : Char) :
    ReadsAs (ReferenceTable.write specials.entries c) (ReferenceTable.write named.entries c) := by
  have hentries : specials.entries = named.entries ++ [('\x27', "&#39;".toList)] := rfl
  rw [ReferenceTable.write, ReferenceTable.write, hentries, List.lookup_append]
  cases hlookup : named.entries.lookup c with
  | some reference =>
      obtain ⟨front, back, hsplit, -⟩ := List.lookup_eq_some_iff.mp hlookup
      have hmem : (c, reference) ∈ named.entries := by simp [hsplit]
      exact readsAs_of_mem_named hmem
  | none =>
      have hc : c ≠ '&' := by
        rintro rfl
        cases hlookup
      by_cases hapos : c = '\x27'
      · rw [hapos]
        exact readsAs_apostrophe
      · rw [Option.none_or, List.lookup_cons, beq_eq_false_iff_ne.mpr hapos]
        exact .plain hc

lemma escape_every_readsAs (text : Text) : ReadsAs (escape true text) (named.encode text) := by
  rw [escape_every_eq_encode]
  induction text with
  | nil => exact .nil
  | cons c text ih =>
      rw [ReferenceTable.encode, ReferenceTable.encode, List.flatMap_cons, List.flatMap_cons]
      exact (readsAs_write c).append ih

/-! ### References kept -/

/-- **Induction along the references of a text**: over a character that is no ampersand, an
ampersand that begins no reference, and a reference. -/
theorem references_ind {P : Text → Prop} (nil : P [])
    (plain : ∀ c rest, c ≠ '&' → P rest → P (c :: rest))
    (bare : ∀ rest, continuesReference rest = false → P rest → P ('&' :: rest))
    (reference : ∀ reference rest, IsReference reference → P rest → P (reference ++ rest))
    (text : Text) : P text := by
  induction hlength : text.length using Nat.strongRecOn generalizing text with
  | ind length ih =>
      subst hlength
      cases text with
      | nil => exact nil
      | cons c rest =>
          by_cases hc : c = '&'
          · subst hc
            cases hcontinues : continuesReference rest with
            | false => exact bare rest hcontinues (ih rest.length (by simp) rest rfl)
            | true =>
                obtain ⟨_, href, after, hafter⟩ := continuesReference_iff.mp hcontinues
                obtain ⟨name, rfl, -⟩ := href.exists_cons
                rw [← hafter]
                exact reference _ after href (ih after.length (by simp [← hafter]) after rfl)
          · exact plain c rest hc (ih rest.length (by simp) rest rfl)

/-- A numeric reference, by what stands between its number sign and its semicolon. -/
def numeric (name : Text) : Text := "&#" ++ (name ++ [';'])

lemma numeric_sign (base : Base) (digits : Text) :
    numeric (base.sign ++ digits) = base.reference digits := by
  cases base <;> rfl

/-- **A name that stands for no character**: it is no run of digits behind the sign of a base, or a
numeral of a number that is no code point of a character. -/
inductive IsFaulty (name : Text) : Prop where
  | malformed : (¬ ∃ base digits, name = Base.sign base ++ digits ∧ digits ≠ []
      ∧ ∀ c ∈ digits, base.isDigit c = true) → IsFaulty name
  | surrogate {base : Base} {digits : Text} {n : Nat} : name = base.sign ++ digits →
      base.IsNumeral digits n → 0xD800 ≤ n → n ≤ 0xDFFF → IsFaulty name
  | outOfRange {base : Base} {digits : Text} {n : Nat} : name = base.sign ++ digits →
      base.IsNumeral digits n → 0x10FFFF < n → IsFaulty name

lemma sign_append_inj {base other : Base} {digits more : Text} (hends : base.MarkEnds digits)
    (hmore : ∀ c ∈ more, other.isDigit c = true) (h : base.sign ++ digits = other.sign ++ more) :
    base = other ∧ digits = more := by
  cases base <;> cases other
  · exact ⟨rfl, h⟩
  · refine absurd ?_ (hends rfl)
    rw [show digits = 'x' :: more from h]
    rfl
  · have hx := hmore 'x' (by rw [show more = 'x' :: digits from h.symm]; exact List.mem_cons_self)
    cases hx
  · exact ⟨rfl, List.cons.inj h |>.2⟩

/-- **The names that are decoded**, apart from the length of a decimal numeral. -/
lemma isFaulty_iff {base : Base} {digits : Text} (hends : base.MarkEnds digits) :
    IsFaulty (base.sign ++ digits) ↔ ¬ ∃ c : Char, base.IsNumeral digits c.toNat := by
  have hunique : ∀ {n : Nat} {c : Char}, base.IsNumeral digits n →
      base.IsNumeral digits c.toNat → c.toNat = n := by
    intro n c hn hc
    rw [← Option.some_inj, ← hn.value?, ← hc.value?]
  constructor
  · rintro hfaulty ⟨c, hc⟩
    cases hfaulty with
    | malformed hnone =>
        refine hnone ⟨base, digits, rfl, ?_, hc.isDigit⟩
        rintro rfl
        cases hc.value?
    | surrogate hname hn hlow hhigh =>
        obtain ⟨rfl, rfl⟩ := sign_append_inj hends hn.isDigit hname
        have hvalid : c.toNat.isValidChar := c.valid
        rw [hunique hn hc, Nat.isValidChar] at hvalid
        omega
    | outOfRange hname hn hrange =>
        obtain ⟨rfl, rfl⟩ := sign_append_inj hends hn.isDigit hname
        have hvalid : c.toNat.isValidChar := c.valid
        rw [hunique hn hc, Nat.isValidChar] at hvalid
        omega
  · intro hnone
    cases hvalue : base.value? digits with
    | none =>
        refine .malformed ?_
        rintro ⟨other, more, hname, hne, hmore⟩
        obtain ⟨rfl, rfl⟩ := sign_append_inj hends hmore hname
        rcases Base.value?_eq_none_iff.mp hvalue with hempty | ⟨c, hc, hnot⟩
        · exact hne hempty
        · rw [hmore c hc] at hnot
          cases hnot
    | some n =>
        have hn := Base.value?_eq_some_iff.mp hvalue
        by_cases hvalid : n.isValidChar
        · refine absurd ⟨Char.ofNat n, ?_⟩ hnone
          rwa [Char.ofNat, dif_pos hvalid]
        · rw [Nat.isValidChar] at hvalid
          by_cases hrange : 0x10FFFF < n
          · exact .outOfRange rfl hn hrange
          · exact .surrogate rfl hn (by omega) (by omega)

/-! ### Texts that hold a reference -/

/-- The names of references: word characters. -/
def IsName (name : Text) : Prop :=
  name ≠ [] ∧ ∀ c ∈ name, Text.isWord c = true

/-- **A text holds a numeric reference** of some kind. -/
def Holds (IsBad : Text → Prop) (text : Text) : Prop :=
  ∃ name, IsName name ∧ IsBad name ∧ numeric name <:+: text

section

variable {IsBad : Text → Prop}

lemma isReference_numeric {name : Text} (h : IsName name) : IsReference (numeric name) :=
  ⟨['#'], name, rfl, Or.inr rfl, h.1, h.2⟩

lemma holds_append_of_notMem {front : Text} (h : '&' ∉ front) (rest : Text) :
    Holds IsBad (front ++ rest) ↔ Holds IsBad rest := by
  induction front with
  | nil => rfl
  | cons c front ih =>
      rw [List.mem_cons, not_or] at h
      rw [← ih h.2]
      refine exists_congr fun name => and_congr_right fun _ => and_congr_right fun _ => ?_
      rw [List.cons_append, List.infix_cons_iff]
      exact or_iff_right fun hstart => h.1 (List.cons_prefix_cons.mp hstart).1

lemma holds_ampersand (rest : Text) :
    Holds IsBad ('&' :: rest)
      ↔ (∃ name, IsName name ∧ IsBad name ∧ numeric name <+: '&' :: rest) ∨ Holds IsBad rest := by
  simp only [Holds, List.infix_cons_iff, ← exists_or, ← and_or_left]

lemma holds_bare {rest : Text} (h : continuesReference rest = false) :
    Holds IsBad ('&' :: rest) ↔ Holds IsBad rest := by
  rw [holds_ampersand]
  refine or_iff_right ?_
  rintro ⟨name, hname, -, hstart⟩
  rw [continuesReference_iff.mpr ⟨_, isReference_numeric hname, hstart⟩] at h
  cases h

/-- The name of a reference is the run of word characters in it. -/
lemma name_unique {name other rest : Text} (hname : IsName name) (hother : IsName other)
    (h : other ++ [';'] <+: name ++ ';' :: rest) : other = name := by
  have hsemicolon : Text.isWord ';' = false := by decide +kernel
  obtain ⟨after, hafter⟩ := h
  rw [List.append_assoc, List.singleton_append] at hafter
  rw [← Text.takeWhile_run hother.2 hsemicolon after, hafter,
    Text.takeWhile_run hname.2 hsemicolon rest]

lemma IsName.ampersand_notMem {name : Text} (h : IsName name) : '&' ∉ name ++ [';'] := by
  rw [List.mem_append, not_or]
  exact ⟨Entity.ampersand_notMem fun c hc => isPlain_of_isWord (h.2 c hc), by decide⟩

lemma holds_named {name : Text} (hname : IsName name) (rest : Text) :
    Holds IsBad ('&' :: (name ++ [';']) ++ rest) ↔ Holds IsBad rest := by
  rw [List.cons_append, holds_ampersand, holds_append_of_notMem hname.ampersand_notMem]
  refine or_iff_right ?_
  rintro ⟨other, -, -, hstart⟩
  obtain ⟨c, others, rfl⟩ := List.exists_cons_of_ne_nil hname.1
  have hc : '#' = c := (List.cons_prefix_cons.mp (List.cons_prefix_cons.mp hstart).2).1
  exact Text.ne_of_class (hname.2 c List.mem_cons_self) (by decide +kernel) hc.symm

lemma holds_numeric {name : Text} (hname : IsName name) (rest : Text) :
    Holds IsBad (numeric name ++ rest) ↔ IsBad name ∨ Holds IsBad rest := by
  have hamp : '&' ∉ '#' :: (name ++ [';']) :=
    List.not_mem_cons_of_ne_of_not_mem (by decide) hname.ampersand_notMem
  show Holds IsBad ('&' :: ('#' :: (name ++ [';']) ++ rest)) ↔ _
  rw [holds_ampersand, holds_append_of_notMem hamp]
  refine or_congr_left ⟨?_, fun hbad => ⟨name, hname, hbad, List.prefix_append (numeric name) rest⟩⟩
  rintro ⟨other, hother, hbad, hstart⟩
  have hinside : other ++ [';'] <+: name ++ [';'] ++ rest :=
    (List.cons_prefix_cons.mp (List.cons_prefix_cons.mp hstart).2).2
  rw [List.append_assoc, List.singleton_append] at hinside
  rwa [name_unique hname hother hinside] at hbad

end

/-! ### What is decoded -/

/-- **A name that is refused**: it stands for no character, or it is a decimal numeral that is too
long. -/
def IsRefused (name : Text) : Prop :=
  IsFaulty name ∨ (∀ c ∈ name, c.isDigit = true) ∧ Text.digitLimit < name.length

/-- **The outcome of decoding** a text says whether the text is bad; and no reference lacks its
semicolon. -/
def Tells (isBad : Prop) : Except Fault Text → Prop
  | .ok _ => ¬ isBad
  | .error fault => isBad ∧ ∀ offset, fault ≠ .unterminated offset

lemma Tells.map {isBad : Prop} {f : Text → Text} {outcome : Except Fault Text}
    (h : Tells isBad outcome) : Tells isBad (outcome.map f) := by
  cases outcome <;> exact h

lemma ReadsAs.tells {part decoded rest : Text} {isBad : Prop} (hreads : ReadsAs part decoded)
    (h : ∀ offset, Tells isBad (unescapeFrom offset rest)) (offset : Nat) :
    Tells isBad (unescapeFrom offset (part ++ rest)) := by
  rw [hreads]
  exact (h _).map

lemma readsAs_ofSpecial {c : Char} (hc : c ≠ '&') :
    ReadsAs (ofSpecial c) (ReferenceTable.write named.entries c) := by
  have hwrite : ReferenceTable.write specials.entries c = ReferenceTable.write marks c := by
    rw [ReferenceTable.write, specials, List.lookup_cons, beq_eq_false_iff_ne.mpr hc]
    rfl
  rw [ofSpecial_eq_write, ← hwrite]
  exact readsAs_write c

lemma decodeDigits_ne_unterminated (base : Base) (digits : Text) (offset other : Nat) :
    decodeDigits base digits offset ≠ .error (.unterminated other) := by
  intro h
  rw [decodeDigits] at h
  split at h
  · cases h
  · rw [character] at h
    split_ifs at h <;> cases h

/-- **The names that are decoded** are those that are not refused. -/
lemma decodeDigits_ok_iff {base : Base} {digits : Text} (hends : base.MarkEnds digits)
    (offset : Nat) :
    (∃ c, decodeDigits base digits offset = .ok c) ↔ ¬ IsRefused (base.sign ++ digits) := by
  simp only [decodeDigits_eq_ok_iff]
  rw [exists_and_right, IsRefused, not_or, isFaulty_iff hends, not_not]
  refine and_congr_right fun ⟨c, hc⟩ => ?_
  cases base with
  | decimal =>
      have hdigits : ∀ c ∈ digits, c.isDigit = true := hc.isDigit
      exact ⟨fun h hlong => absurd (h rfl) (Nat.not_le_of_lt hlong.2),
        fun h _ => Nat.le_of_not_lt fun hlong => h ⟨hdigits, hlong⟩⟩
  | hexadecimal =>
      refine iff_of_true nofun fun h => ?_
      cases h.1 'x' List.mem_cons_self

/-- **A numeric reference** tells whether its name is refused. -/
lemma numeric_tells {name rest : Text} {isBad : Prop} (hname : IsName name)
    (h : ∀ offset, Tells isBad (unescapeFrom offset rest)) (offset : Nat) :
    Tells (IsRefused name ∨ isBad) (unescapeFrom offset (numeric name ++ rest)) := by
  obtain ⟨base, digits, rfl, hends⟩ := exists_sign name
  have hsemicolon : ';' ∉ digits := by
    intro hmem
    have := hname.2 ';' (List.mem_append_right _ hmem)
    exact absurd this (by decide +kernel)
  have hok := decodeDigits_ok_iff hends (offset + base.leadLength)
  rw [numeric_sign, unescapeFrom_numeric hends hsemicolon]
  cases hdecode : decodeDigits base digits (offset + base.leadLength) with
  | ok c =>
      rw [or_iff_right (hok.mp ⟨c, hdecode⟩)]
      exact (h _).map
  | error fault =>
      refine ⟨Or.inl ?_, fun other hother => ?_⟩
      · by_contra hnot
        obtain ⟨c, hc⟩ := hok.mpr hnot
        rw [hdecode] at hc
        cases hc
      · exact decodeDigits_ne_unterminated _ _ _ other (hother ▸ hdecode)

lemma escape_tells (text : Text) : ∀ offset,
    Tells (Holds IsRefused text) (unescapeFrom offset (escape false text)) := by
  induction text using references_ind with
  | nil =>
      intro offset
      rw [show escape false [] = [] from rfl, unescapeFrom_nil]
      rintro ⟨name, -, -, hpart⟩
      cases List.infix_nil.mp hpart
  | plain c rest hc ih =>
      have hfront : '&' ∉ [c] := by simpa using Ne.symm hc
      have hrest : Holds IsRefused (c :: rest) ↔ Holds IsRefused rest :=
        holds_append_of_notMem hfront rest
      rw [escape_cons, if_neg (by simp [hc]), hrest]
      exact (readsAs_ofSpecial hc).tells ih
  | bare rest hbare ih =>
      rw [escape_cons, if_pos (by simp [hbare]), holds_bare hbare]
      have hentry : ('&', "&amp;".toList) ∈ named.entries := by decide
      exact (readsAs_of_mem_named hentry).tells ih
  | reference reference rest href ih =>
      rw [escape_reference_append href]
      obtain ⟨mark, name, rfl, rfl | rfl, hne, hword⟩ := href
      · rw [List.nil_append, holds_named ⟨hne, hword⟩]
        by_cases hcolon : name = "colon"
        · rw [hcolon]
          exact ReadsAs.colon.tells ih
        · exact (ReadsAs.named hne hword hcolon).tells ih
      · rw [List.append_assoc]
        show ∀ offset, Tells (Holds IsRefused (numeric name ++ rest))
          (unescapeFrom offset (numeric name ++ escape false rest))
        rw [holds_numeric ⟨hne, hword⟩]
        exact numeric_tells ⟨hne, hword⟩ ih

/-- **What becomes of an escaped text that is decoded.** With every ampersand escaped, it is the
text with its special characters written by their names, so that it is the text itself just if it
holds none of them. With references kept, decoding is never refused for want of a semicolon; and if
no run of decimal digits in the text is too long, it is refused just if the text holds a numeric
reference that stands for no character. -/
theorem unescape_escape (text : Text) :
    unescape (escape true text) = .ok (named.encode text)
    ∧ (unescape (escape true text) = .ok text ↔ ∀ c ∈ text, c ∉ ['&', '<', '>', '"'])
    ∧ (∀ offset, unescape (escape false text) ≠ .error (.unterminated offset))
    ∧ ((∀ digits, digits <:+: text → (∀ c ∈ digits, c.isDigit = true) →
          digits.length ≤ Text.digitLimit) →
        ((∃ fault, unescape (escape false text) = .error fault)
          ↔ ∃ name, IsName name ∧ IsFaulty name ∧ numeric name <:+: text)) := by
  have hevery := (escape_every_readsAs text).unescape_eq
  have htells := escape_tells text 0
  rw [← unescape] at htells
  refine ⟨hevery, ?_, fun offset h => ?_, fun hshort => ?_⟩
  · rw [hevery, Except.ok.injEq, named.encode_eq_self_iff (by decide)]
    rfl
  · rw [h] at htells
    exact htells.2 offset rfl
  · have hfaulty : Holds IsRefused text ↔ Holds IsFaulty text := by
      refine exists_congr fun name => and_congr_right fun _ => and_congr_left fun hpart => ?_
      refine or_iff_left ?_
      rintro ⟨hdigits, hlong⟩
      have hname : name <:+: numeric name := ⟨"&#", [';'], by simp [numeric]⟩
      exact absurd (hshort name (hname.trans hpart) hdigits) (Nat.not_le_of_lt hlong)
    refine Iff.trans ?_ hfaulty
    cases hresult : unescape (escape false text) with
    | ok decoded =>
        rw [hresult] at htells
        refine iff_of_false ?_ htells
        rintro ⟨fault, hfault⟩
        cases hfault
    | error fault =>
        rw [hresult] at htells
        exact iff_of_true ⟨fault, rfl⟩ htells.1

/-- A text whose last reference is refused, with a digit of another script. -/
theorem unescape_escape_mixed :
    (∀ digits, digits <:+: "a&colon;&#x41;&#٣;".toList → (∀ c ∈ digits, c.isDigit = true) →
        digits.length ≤ Text.digitLimit)
    ∧ ∃ fault, unescape (escape false "a&colon;&#x41;&#٣;") = .error fault := by
  have hshort : ∀ digits, digits <:+: "a&colon;&#x41;&#٣;".toList →
      (∀ c ∈ digits, c.isDigit = true) → digits.length ≤ Text.digitLimit := by
    intro digits hpart _
    exact hpart.length_le.trans (by decide)
  refine ⟨hshort, ((unescape_escape _).2.2.2 hshort).mpr ⟨"٣", ⟨by decide, ?_⟩, .malformed ?_, ?_⟩⟩
  · decide +kernel
  · rintro ⟨base, digits, hname, -, hdigits⟩
    cases base with
    | decimal => cases hdigits '٣' (by rw [show digits = ['٣'] from hname.symm]; decide)
    | hexadecimal => cases hname
  · exact ⟨"a&colon;&#x41;", [], by decide⟩

end BlockTree.Entity
