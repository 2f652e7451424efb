import BlockTree.Proofs.Numerals
import Mathlib.Data.List.Forall2

/-!
Decoding, part by part.

* `lead_mark`, `lead_cons`: what stands at the start of a text, from what the text begins with.
* `unescapeFrom_numeric`: a numeric reference at the start of a text, with the text after it.
* `ReadsAs`: a part of a text is read as some characters wherever it stands; such parts can be put
  together.
* `Spelling`: the ways to write a character.
* `unescape_spelled`: each character of a text can be written in its own way.
-/

namespace BlockTree.Entity

/-! ### The start of a text -/

/-- What a numeric reference begins with. -/
def Base.mark : Base → Text
  | .decimal => "&#"
  | .hexadecimal => "&#x"

/-- What stands behind the number sign in front of the digits of the base. -/
def Base.sign : Base → Text
  | .decimal => []
  | .hexadecimal => ['x']

lemma Base.mark_eq (base : Base) : base.mark = "&#".toList ++ base.sign := by
  cases base <;> rfl

/-- A numeric reference with the digits. -/
def Base.reference (base : Base) (digits : Text) : Text := base.mark ++ (digits ++ [';'])

lemma Base.reference_append (base : Base) (digits after : Text) :
    base.reference digits ++ after = base.mark ++ (digits ++ ';' :: after) := by
  rw [reference, List.append_assoc, List.append_assoc, List.singleton_append]

lemma Base.length_mark (base : Base) : base.mark.length = base.leadLength := by
  cases base <;> rfl

/-- What follows the mark of the base does not make it the mark of another one. -/
def Base.MarkEnds (base : Base) (rest : Text) : Prop :=
  base = .decimal → rest.head? ≠ some 'x'

/-- Every text behind a number sign has the sign of one base and no other. -/
lemma exists_sign (rest : Text) :
    ∃ base digits, rest = Base.sign base ++ digits ∧ base.MarkEnds digits := by
  by_cases hx : rest.head? = some 'x'
  · exact ⟨.hexadecimal, rest.tail, (List.cons_head?_tail hx).symm, nofun⟩
  · exact ⟨.decimal, rest, rfl, fun _ => hx⟩

lemma lead_mark {base : Base} {rest : Text} (h : base.MarkEnds rest) :
    lead (base.mark ++ rest) = .numeric base rest := by
  cases base with
  | hexadecimal =>
      have hcolon : Text.after? ("&#x".toList ++ rest) "&colon;" = none := rfl
      have hmark : Text.after? ("&#x".toList ++ rest) "&#x" = some rest :=
        Text.after?_eq_some.mpr rfl
      show lead ("&#x".toList ++ rest) = _
      rw [lead.eq_def, hcolon, hmark]
  | decimal =>
      have hx : Text.after? rest ['x'] = none := by
        cases rest with
        | nil => rfl
        | cons c rest =>
            have hc : c ≠ 'x' := fun hc => h rfl (congrArg some hc)
            rw [Text.after?, if_neg hc]
      have hmark : Text.after? ("&#".toList ++ rest) "&#x" = none := hx
      have hcolon : Text.after? ("&#".toList ++ rest) "&colon;" = none := rfl
      have hnumber : Text.after? ("&#".toList ++ rest) "&#" = some rest :=
        Text.after?_eq_some.mpr rfl
      show lead ("&#".toList ++ rest) = _
      rw [lead.eq_def, hcolon, hmark, hnumber]

lemma lead_colon_append (after : Text) : lead ("&colon;".toList ++ after) = .colon after := by
  have hcolon : Text.after? ("&colon;".toList ++ after) "&colon;" = some after :=
    Text.after?_eq_some.mpr rfl
  rw [lead.eq_def, hcolon]

/-- A character is plain if no reference that is decoded begins with it. -/
lemma lead_cons {c : Char} {after : Text} (hcolon : ¬ "&colon;".toList <+: c :: after)
    (hnumber : ¬ "&#".toList <+: c :: after) : lead (c :: after) = .plain c after := by
  have hnone : ∀ front : Text, ¬ front <+: c :: after → Text.after? (c :: after) front = none := by
    intro front hfront
    rw [Option.eq_none_iff_forall_ne_some]
    exact fun rest hrest => hfront ⟨rest, (Text.after?_eq_some.mp hrest).symm⟩
  have hmark : ¬ "&#x".toList <+: c :: after := fun h => hnumber (.trans ⟨['x'], rfl⟩ h)
  rw [lead.eq_def, hnone _ hcolon, hnone _ hmark, hnone _ hnumber]

/-- **A step of the decoder**, by what stands at the start of the text. -/
lemma unescapeFrom_eq (offset : Nat) (text : Text) :
    unescapeFrom offset text
      = match lead text with
        | .finish => .ok []
        | .colon after => (unescapeFrom (offset + 7) after).map (':' :: ·)
        | .numeric base digits =>
          match decodeNumeric base digits (offset + base.leadLength) with
          | .error fault => .error fault
          | .ok (c, after) =>
            (unescapeFrom (offset + base.leadLength + (digits.length - after.length)) after).map
              (c :: ·)
        | .plain c after => (unescapeFrom (offset + 1) after).map (c :: ·) := by
  rw [unescapeFrom]
  split
  · rename_i hlead
    rw [hlead]
  · rename_i hlead
    rw [hlead]
  · rename_i hlead
    rw [hlead]
    dsimp only
    split <;> rename_i hdecode <;> rw [hdecode]
  · rename_i hlead
    rw [hlead]

lemma unescapeFrom_nil (offset : Nat) : unescapeFrom offset [] = .ok [] := by
  rw [unescapeFrom_eq]
  rfl

/-! ### Numeric references -/

/-- **The character with a code point**, if it has one. -/
lemma character_eq_ok_iff {n : Nat} {c : Char} : character n = .ok c ↔ c.toNat = n := by
  rw [character]
  constructor
  · intro h
    split_ifs at h with hrange hsurrogate
    have hvalid : n.isValidChar := by
      simp only [Bool.and_eq_true, decide_eq_true_eq] at hsurrogate
      rw [Nat.isValidChar]
      omega
    rw [← Except.ok.inj h, Char.ofNat, dif_pos hvalid]
    rfl
  · rintro rfl
    have hvalid : c.toNat.isValidChar := c.valid
    rw [Nat.isValidChar] at hvalid
    rw [if_neg (by omega), if_neg (by simp; omega), Char.ofNat_toNat]

/-- **A reference that is decoded** has a numeral of the code point, in decimal not too long. -/
lemma decodeDigits_eq_ok_iff {base : Base} {digits : Text} {offset : Nat} {c : Char} :
    decodeDigits base digits offset = .ok c
      ↔ base.IsNumeral digits c.toNat ∧ (base = .decimal → digits.length ≤ Text.digitLimit) := by
  rw [← Base.value?_eq_some_iff, decodeDigits]
  cases base.value? digits with
  | none => simp
  | some n =>
      dsimp only
      split
      · rename_i hlong
        rw [Bool.and_eq_true, decide_eq_true_eq, decide_eq_true_eq] at hlong
        exact ⟨nofun, fun h => absurd (h.2 hlong.1) (Nat.not_le_of_lt hlong.2)⟩
      · rename_i hlong
        have hlimit : base = .decimal → digits.length ≤ Text.digitLimit := by simpa using hlong
        rw [character_eq_ok_iff, Option.some.injEq, and_iff_left hlimit, eq_comm]

lemma Base.semicolon_notMem {base : Base} {digits : Text}
    (h : ∀ c ∈ digits, base.isDigit c = true) : ';' ∉ digits := by
  intro hmem
  have := h _ hmem
  cases base <;> exact absurd this (by decide)

lemma Base.markEnds_of_isDigit {base : Base} {digits : Text}
    (h : ∀ c ∈ digits, base.isDigit c = true) : base.MarkEnds digits := by
  rintro rfl hhead
  exact absurd (h _ (List.mem_of_mem_head? hhead)) (by decide)

lemma decodeNumeric_append {digits : Text} (h : ';' ∉ digits) (base : Base) (offset : Nat)
    (after : Text) :
    decodeNumeric base (digits ++ ';' :: after) offset
      = (decodeDigits base digits offset).map (·, after) := by
  rw [decodeNumeric, Text.cut?_append h]

/-- Either no semicolon follows, or there is a first one. -/
lemma decodeNumeric_cases (base : Base) (rest : Text) :
    (∀ offset, decodeNumeric base rest offset = .error (.unterminated offset))
      ∨ ∃ digits after, rest = digits ++ ';' :: after ∧ ';' ∉ digits := by
  by_cases hmem : ';' ∈ rest
  · exact Or.inr (List.eq_append_cons_of_mem hmem)
  · refine Or.inl fun offset => ?_
    rw [decodeNumeric]
    cases hcut : rest.cut? ';' with
    | none => rfl
    | some parts =>
        rw [(Text.cut?_eq_some hcut).1] at hmem
        exact absurd (List.mem_append_right _ List.mem_cons_self) hmem

/-- **A numeric reference** at the start of a text. -/
lemma unescapeFrom_numeric {base : Base} {digits : Text} (hmark : base.MarkEnds digits)
    (hdigits : ';' ∉ digits) (offset : Nat) (after : Text) :
    unescapeFrom offset (base.reference digits ++ after)
      = match decodeDigits base digits (offset + base.leadLength) with
        | .error fault => .error fault
        | .ok c =>
          (unescapeFrom (offset + (base.reference digits).length) after).map (c :: ·) := by
  have hends : base.MarkEnds (digits ++ ';' :: after) := by
    intro hbase
    cases digits with
    | nil => exact fun h => absurd (Option.some.inj h) (by decide)
    | cons c digits => exact hmark hbase
  rw [unescapeFrom_eq, Base.reference_append, lead_mark hends]
  dsimp only
  rw [decodeNumeric_append hdigits]
  cases decodeDigits base digits (offset + base.leadLength) with
  | error fault => rfl
  | ok c =>
      have hoffset : offset + base.leadLength + ((digits ++ ';' :: after).length - after.length)
          = offset + (base.reference digits).length := by
        simp only [Base.reference, List.length_append, List.length_cons, List.length_nil,
          base.length_mark]
        omega
      rw [← hoffset]
      rfl

/-! ### Parts of a text -/

/-- **A part of a text is read** as some characters, wherever it stands and whatever follows it. -/
def ReadsAs (part decoded : Text) : Prop :=
  ∀ offset rest, unescapeFrom offset (part ++ rest)
    = (unescapeFrom (offset + part.length) rest).map (decoded ++ ·)

namespace ReadsAs

lemma nil : ReadsAs [] [] := by
  intro offset rest
  show unescapeFrom offset rest = (unescapeFrom offset rest).map ([] ++ ·)
  cases unescapeFrom offset rest <;> rfl

lemma append {part other decoded more : Text} (h : ReadsAs part decoded)
    (hother : ReadsAs other more) : ReadsAs (part ++ other) (decoded ++ more) := by
  intro offset rest
  rw [List.append_assoc, h, hother, List.length_append, ← Nat.add_assoc]
  cases unescapeFrom (offset + part.length + other.length) rest <;> simp [Except.map]

lemma flatten {parts decoded : List Text} (h : List.Forall₂ ReadsAs parts decoded) :
    ReadsAs parts.flatten decoded.flatten := by
  induction h with
  | nil => exact nil
  | cons hpart _ ih => exact hpart.append ih

/-- A text that is read as a whole. -/
lemma unescape_eq {part decoded : Text} (h : ReadsAs part decoded) :
    unescape part = .ok decoded := by
  have hread := h 0 []
  rw [List.append_nil, Nat.zero_add, unescapeFrom_nil] at hread
  rw [unescape, hread]
  simp [Except.map]

lemma of_lead {c : Char} (h : ∀ rest, lead (c :: rest) = .plain c rest) : ReadsAs [c] [c] := by
  intro offset rest
  rw [List.singleton_append, unescapeFrom_eq, h]
  rfl

/-- Only with an ampersand can a reference begin. -/
lemma plain {c : Char} (hc : c ≠ '&') : ReadsAs [c] [c] := by
  refine of_lead fun rest => lead_cons ?_ ?_
  · exact fun h => hc (List.cons_prefix_cons.mp h).1.symm
  · exact fun h => hc (List.cons_prefix_cons.mp h).1.symm

lemma of_notMem {part : Text} (h : '&' ∉ part) : ReadsAs part part := by
  induction part with
  | nil => exact nil
  | cons c part ih =>
      rw [List.mem_cons, not_or] at h
      exact (plain (Ne.symm h.1)).append (ih h.2)

lemma colon : ReadsAs "&colon;" ":" := by
  intro offset rest
  rw [unescapeFrom_eq, lead_colon_append]
  rfl

lemma of_ok {base : Base} {digits : Text} {c : Char} (hmark : base.MarkEnds digits)
    (hdigits : ';' ∉ digits) (h : ∀ offset, decodeDigits base digits offset = .ok c) :
    ReadsAs (base.reference digits) [c] := by
  intro offset rest
  rw [unescapeFrom_numeric hmark hdigits, h]
  rfl

/-- **A numeral** of a code point is read as the character. -/
lemma numeral {base : Base} {digits : Text} {c : Char} (h : base.IsNumeral digits c.toNat)
    (hlength : base = .decimal → digits.length ≤ Text.digitLimit) :
    ReadsAs (base.reference digits) [c] :=
  of_ok (Base.markEnds_of_isDigit h.isDigit) (Base.semicolon_notMem h.isDigit)
    fun _ => decodeDigits_eq_ok_iff.mpr ⟨h, hlength⟩

/-- **A reference by name** stays as it is, unless it is that for a colon. -/
lemma named {name : Text} (hne : name ≠ []) (hname : ∀ c ∈ name, Text.isWord c = true)
    (hcolon : name ≠ "colon") : ReadsAs ('&' :: (name ++ [';'])) ('&' :: (name ++ [';'])) := by
  have hsemicolon : Text.isWord ';' = false := by decide +kernel
  have hamp : '&' ∉ name ++ [';'] := by
    rw [List.mem_append, not_or]
    exact ⟨fun h => Text.ne_of_class (hname _ h) (by decide +kernel) rfl, by decide⟩
  have hlead : ∀ rest,
      lead ('&' :: (name ++ [';'] ++ rest)) = .plain '&' (name ++ [';'] ++ rest) := by
    intro rest
    refine lead_cons ?_ ?_
    · -- The name of the reference for a colon is the run of word characters in it.
      rintro ⟨after, hafter⟩
      have hrun : ("colon".toList ++ ';' :: after) = name ++ ';' :: rest := by
        simpa using hafter
      have hname' : ∀ c ∈ "colon".toList, Text.isWord c = true := by decide +kernel
      refine hcolon ?_
      rw [← Text.takeWhile_run hname hsemicolon rest, ← hrun,
        Text.takeWhile_run hname' hsemicolon after]
    · obtain ⟨c, others, rfl⟩ := List.exists_cons_of_ne_nil hne
      intro h
      have hc : '#' = c := (List.cons_prefix_cons.mp (List.cons_prefix_cons.mp h).2).1
      exact Text.ne_of_class (hname c List.mem_cons_self) (by decide +kernel) hc.symm
  intro offset rest
  rw [List.cons_append, unescapeFrom_eq, hlead]
  dsimp only
  rw [of_notMem hamp, List.length_cons, Nat.add_assoc, Nat.add_comm 1]
  cases unescapeFrom (offset + ((name ++ [';']).length + 1)) rest <;> simp [Except.map]

end ReadsAs

/-! ### Spelled texts -/

/-- **The ways to write a character**: as itself, unless it is an ampersand; as a numeral of its
code point, in decimal not too long; and a colon by its name. -/
inductive Spelling : Char → Text → Prop where
  | verbatim {c : Char} : c ≠ '&' → Spelling c [c]
  | decimal {c : Char} {digits : Text} : Base.decimal.IsNumeral digits c.toNat →
      digits.length ≤ Text.digitLimit → Spelling c ("&#" ++ digits ++ ";")
  | hexadecimal {c : Char} {digits : Text} : Base.hexadecimal.IsNumeral digits c.toNat →
      Spelling c ("&#x" ++ digits ++ ";")
  | colon : Spelling ':' "&colon;"

lemma Spelling.readsAs {c : Char} {written : Text} (h : Spelling c written) :
    ReadsAs written [c] := by
  cases h with
  | verbatim hc => exact .plain hc
  | decimal hdigits hlength =>
      rw [List.append_assoc]
      exact .numeral hdigits fun _ => hlength
  | hexadecimal hdigits =>
      rw [List.append_assoc]
      exact .numeral hdigits fun h => Base.noConfusion h
  | colon => exact .colon

/-- **However each character of a text is written**, decoding gives the text. -/
theorem unescape_spelled {text : Text} {written : List Text}
    (h : List.Forall₂ Spelling text written) : unescape written.flatten = .ok text := by
  have hparts : List.Forall₂ ReadsAs written (text.map fun c => [c]) := by
    rw [List.forall₂_map_right_iff]
    exact h.flip.imp fun _ _ hspelled => hspelled.readsAs
  rw [(ReadsAs.flatten hparts).unescape_eq, ← List.flatMap_def, List.flatMap_singleton']

/-- Four ways to write, in one text. -/
theorem unescape_spelled_mixed :
    List.Forall₂ Spelling "a:↩&".toList ["a", "&colon;", "&#x0021a9;", "&#0038;"]
      ∧ unescape "a&colon;&#x0021a9;&#0038;" = .ok "a:↩&".toList := by
  have hspelled :
      List.Forall₂ Spelling "a:↩&".toList ["a", "&colon;", "&#x0021a9;", "&#0038;"] := by
    refine .cons (.verbatim (by decide)) (.cons .colon (.cons ?_ (.cons ?_ .nil)))
    · exact .hexadecimal (show Base.hexadecimal.IsNumeral "0021a9" _ from ⟨2, by decide⟩)
    · exact .decimal (show Base.decimal.IsNumeral "0038" _ from ⟨2, by decide⟩) (by decide)
  exact ⟨hspelled, unescape_spelled hspelled⟩

end BlockTree.Entity
