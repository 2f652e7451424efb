import BlockTree.Text.Quoted

/-!
Entity references: escaping text for markup, and decoding numeric references.

* `escape`: `<`, `>` and the two quotation marks become references; of the ampersands either all do,
  or those that start no reference yet;
* `unescape`: numeric references and `&colon;` become the characters they stand for. A malformed
  reference is an `Entity.Fault`.
-/

namespace BlockTree.Entity

/-! ### Escaping -/

/-- The reference that a special character other than the ampersand is escaped to. -/
def ofSpecial (c : Char) : Text :=
  if c = '<' then "&lt;"
  else if c = '>' then "&gt;"
  else if c = '"' then "&quot;"
  else if c = '\x27' then "&#39;"
  else [c]

/-- The text continues a reference after its ampersand: an optional number sign, word characters and
a semicolon. -/
def continuesReference (rest : Text) : Bool :=
  let name := if rest.head? = some '#' then rest.tail else rest
  !(name.takeWhile Text.isWord).isEmpty && (name.dropWhile Text.isWord).head? = some ';'

/-- Escapes ampersands: every one, or only those that start no reference. -/
def escapeAmpersands (every : Bool) : Text → Text
  | [] => []
  | c :: rest =>
    if c = '&' && (every || !continuesReference rest) then "&amp;" ++ escapeAmpersands every rest
    else c :: escapeAmpersands every rest

/-- Escapes a text for markup. With `every`, each ampersand is escaped too; without it, an ampersand
that already starts a reference stays. -/
def escape (every : Bool) (text : Text) : Text :=
  (escapeAmpersands every text).flatMap ofSpecial

/-! ### Decoding -/

/-- The two ways to write a code point in a numeric reference. -/
inductive Base where
  | decimal
  | hexadecimal
  deriving DecidableEq, Repr

/-- The number of digits in the base. -/
def Base.radix : Base → Nat
  | .decimal => 10
  | .hexadecimal => 16

/-- The value of an ASCII digit in the base. -/
def Base.digit? : Base → Char → Option Nat
  | .decimal, c => if c.isDigit then some (c.toNat - 48) else none
  | .hexadecimal, c => Text.hexValue? c

/-- What makes a numeric reference undecodable. Offsets count characters up to the first digit. -/
inductive Fault where
  | unterminated (offset : Nat)
  | malformed (base : Base) (digits : Text) (offset : Nat)
  | outOfRange (codePoint : Nat)
  | surrogate (codePoint : Nat)
  | tooLong (digits : Nat)
  deriving DecidableEq, Repr

/-- The wording of a fault. -/
def Fault.message : Fault → Text
  | .unterminated offset => "unterminated numeric entity at offset " ++ Text.decimal offset
  | .malformed base digits offset =>
    "invalid base-" ++ Text.decimal base.radix ++ " entity " ++ Text.quote digits ++ " at offset "
      ++ Text.decimal offset
  | .outOfRange codePoint => "code point 0x" ++ Text.hexadecimal codePoint ++ " is out of range"
  | .surrogate codePoint => "code point 0x" ++ Text.hexadecimal codePoint ++ " is a surrogate"
  | .tooLong digits => Text.tooManyDigits digits

/-- The value of a non-empty run of digits, if every character is a digit of the base. -/
def Base.value? (base : Base) (digits : Text) : Option Nat :=
  if digits.isEmpty then none
  else (digits.mapM base.digit?).map (Text.ofDigits base.radix)

/-- The character with a code point, if there is one. -/
def character (codePoint : Nat) : Except Fault Char :=
  if 0x10FFFF < codePoint then .error (.outOfRange codePoint)
  else if 0xD800 ≤ codePoint && codePoint ≤ 0xDFFF then .error (.surrogate codePoint)
  else .ok (Char.ofNat codePoint)

/-- The character that the digits of a numeric reference stand for; the digits start at the offset.
-/
def decodeDigits (base : Base) (digits : Text) (offset : Nat) : Except Fault Char :=
  match base.value? digits with
  | none => .error (.malformed base digits offset)
  | some codePoint =>
    if base = .decimal && Text.digitLimit < digits.length then .error (.tooLong digits.length)
    else character codePoint

/-- The character that a numeric reference stands for, and the text after its semicolon. The text
begins with the digits, which start at the offset. -/
def decodeNumeric (base : Base) (text : Text) (offset : Nat) : Except Fault (Char × Text) :=
  match text.cut? ';' with
  | none => .error (.unterminated offset)
  | some (digits, after) => (decodeDigits base digits offset).map (·, after)

/-- What stands at the start of a text: a reference or a plain character. -/
inductive Lead where
  | colon (after : Text)
  | numeric (base : Base) (digits : Text)
  | plain (c : Char) (after : Text)
  | finish

/-- Reads the start of a text. The digits of a numeric reference are left with all that follows. -/
def lead (text : Text) : Lead :=
  match text.after? "&colon;" with
  | some after => .colon after
  | none =>
    match text.after? "&#x" with
    | some digits => .numeric .hexadecimal digits
    | none =>
      match text.after? "&#" with
      | some digits => .numeric .decimal digits
      | none =>
        match text with
        | [] => .finish
        | c :: after => .plain c after

/-- The number of characters in front of the digits of a numeric reference. -/
def Base.leadLength : Base → Nat
  | .decimal => 2
  | .hexadecimal => 3

theorem lead_colon {text after : Text} (h : lead text = .colon after) :
    text = "&colon;" ++ after := by
  unfold lead at h
  split at h
  · rename_i hd
    cases h
    exact Text.after?_eq_some.1 hd
  · repeat' split at h
    all_goals simp at h

theorem lead_numeric {text digits : Text} {base : Base} (h : lead text = .numeric base digits) :
    text.length = digits.length + base.leadLength := by
  unfold lead at h
  split at h
  · simp at h
  · split at h
    · rename_i hd
      cases h
      rw [Text.after?_eq_some.1 hd]
      simp [Base.leadLength]
    · split at h
      · rename_i hd
        cases h
        rw [Text.after?_eq_some.1 hd]
        simp [Base.leadLength]
      · split at h <;> simp at h

theorem lead_plain {text after : Text} {c : Char} (h : lead text = .plain c after) :
    text = c :: after := by
  unfold lead at h
  repeat' split at h
  all_goals simp_all

theorem decodeNumeric_length {base : Base} {text after : Text} {offset : Nat} {c : Char}
    (h : decodeNumeric base text offset = .ok (c, after)) : after.length < text.length := by
  unfold decodeNumeric at h
  split at h
  · simp at h
  · rename_i digits rest hc
    cases hd : decodeDigits base digits offset with
    | error e => simp [hd, Except.map] at h
    | ok d =>
      simp only [hd, Except.map, Except.ok.injEq, Prod.mk.injEq] at h
      obtain ⟨-, rfl⟩ := h
      rw [(Text.cut?_eq_some hc).1]
      simp
      omega

/-- Decodes a text that starts at the offset. -/
def unescapeFrom (offset : Nat) (text : Text) : Except Fault Text :=
  match hl : lead text with
  | .finish => .ok []
  | .colon after => (unescapeFrom (offset + 7) after).map (':' :: ·)
  | .numeric base digits =>
    let start := offset + base.leadLength
    match _ : decodeNumeric base digits start with
    | .error fault => .error fault
    | .ok (c, after) =>
      (unescapeFrom (start + (digits.length - after.length)) after).map (c :: ·)
  | .plain c after => (unescapeFrom (offset + 1) after).map (c :: ·)
termination_by text.length
decreasing_by
  · rw [lead_colon hl]; simp; omega
  · have := lead_numeric hl
    have := decodeNumeric_length (by assumption)
    omega
  · rw [lead_plain hl]; simp

/-- Replaces numeric references and `&colon;` by the characters they stand for. -/
def unescape (text : Text) : Except Fault Text :=
  unescapeFrom 0 text

end BlockTree.Entity
