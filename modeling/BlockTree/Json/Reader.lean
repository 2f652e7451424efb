import BlockTree.Data

/-!
Reading structured data.

* `Json.read`: the one value that a text holds, with blanks around it; `Json.readWithin` is the same
  under any limit on the digits of an integer, or without one, and `Json.readWith` with any
  characters for the halves of pairs;
* `Json.Fault`: why a text holds none, and how many characters remain from the place of the fault;
* `Json.Fault.message`: the wording, with line, column and offset.
-/

namespace BlockTree.Json

/-- The ways in which a text fails to be structured data. -/
inductive Cause where
  | noValue
  | noName
  | noColon
  | noComma
  | openText
  | controlCharacter
  | badEscape
  | badUnicodeEscape
  | extraData
  | byteOrderMark
  | tooManyDigits (count : Nat)
  deriving DecidableEq, Repr

/-- A cause, and the number of characters from its place to the end of the text. -/
structure Fault where
  cause : Cause
  remaining : Nat
  deriving DecidableEq, Repr

/-- The fault at the start of a rest of the text. -/
def Fault.here (cause : Cause) (rest : Text) : Fault :=
  ⟨cause, rest.length⟩

/-- The blanks between the tokens. -/
def isGap (c : Char) : Bool :=
  c = ' ' || c = '\t' || c = '\n' || c = '\r'

/-- The rest of a text after its leading blanks. -/
def skipGap (text : Text) : Text :=
  text.dropWhile isGap

/-! ### Texts -/

/-- The 16-bit unit that four hexadecimal digits stand for. -/
def unit? : Text → Option (Nat × Text)
  | a :: b :: c :: d :: rest =>
    ([a, b, c, d].mapM Text.hexValue?).map fun digits => (Text.ofDigits 16 digits, rest)
  | _ => none

theorem unit?_length {text rest : Text} {n : Nat} (h : unit? text = some (n, rest)) :
    rest.length < text.length := by
  unfold unit? at h
  split at h
  · simp only [Option.map_eq_some_iff, Prod.mk.injEq] at h
    obtain ⟨_, _, _, rfl⟩ := h
    simp
    omega
  · simp at h

/-- The unit is the first half of a pair. -/
def isHighUnit (n : Nat) : Bool :=
  0xD800 ≤ n && n ≤ 0xDBFF

/-- The unit is the second half of a pair. -/
def isLowUnit (n : Nat) : Bool :=
  0xDC00 ≤ n && n ≤ 0xDFFF

/-- The code point of a pair of units. -/
def pairCode (high low : Nat) : Nat :=
  0x10000 + (high - 0xD800) * 0x400 + (low - 0xDC00)

/-- The second half of a pair, written as another escape right after the first half. -/
def lowUnit? (text : Text) : Except Fault (Option (Nat × Text)) :=
  match text with
  | '\\' :: 'u' :: digits =>
    if text.length ≤ 6 then .ok none
    else match unit? digits with
      | none => .error (Fault.here .badUnicodeEscape ('u' :: digits))
      | some (low, rest) => .ok (if isLowUnit low then some (low, rest) else none)
  | _ => .ok none

/-- The code point of a numeric escape, a lone half of a pair counting as one. The text begins with
the four digits, and more must follow them. -/
def readUnicodeEscape (digits : Text) : Except Fault (Nat × Text) :=
  match unit? digits with
  | none => .error (Fault.here .badUnicodeEscape ('u' :: digits))
  | some (n, rest) =>
    if rest.isEmpty then .error (Fault.here .badUnicodeEscape ('u' :: digits))
    else if isHighUnit n then
      match lowUnit? rest with
      | .error fault => .error fault
      | .ok (some (low, more)) => .ok (pairCode n low, more)
      | .ok none => .ok (n, rest)
    else .ok (n, rest)

/-- The character that a one-letter escape stands for. -/
def escaped? (c : Char) : Option Char :=
  if c = '"' || c = '\\' || c = '/' then some c
  else if c = 'b' then some '\x08'
  else if c = 'f' then some '\x0c'
  else if c = 'n' then some '\n'
  else if c = 'r' then some '\r'
  else if c = 't' then some '\t'
  else none

/-- The code point of an escape. The text begins after the backslash and is not empty. -/
def readEscape (c : Char) (rest : Text) : Except Fault (Nat × Text) :=
  if c = 'u' then readUnicodeEscape rest
  else match escaped? c with
    | some d => .ok (d.toNat, rest)
    | none => .error (Fault.here .badEscape ('\\' :: c :: rest))

theorem readUnicodeEscape_length {text rest : Text} {code : Nat}
    (h : readUnicodeEscape text = .ok (code, rest)) : rest.length ≤ text.length := by
  unfold readUnicodeEscape at h
  split at h
  · simp at h
  · rename_i n rest' hu
    have := unit?_length hu
    split at h
    · simp at h
    · split at h
      · split at h
        · simp at h
        · rename_i low more hl
          simp only [Except.ok.injEq, Prod.mk.injEq] at h
          obtain ⟨-, rfl⟩ := h
          unfold lowUnit? at hl
          split at hl
          · split at hl
            · simp at hl
            · split at hl
              · simp at hl
              · rename_i hu'
                have := unit?_length hu'
                simp only [Except.ok.injEq] at hl
                split at hl
                · simp only [Option.some.injEq, Prod.mk.injEq] at hl
                  obtain ⟨-, rfl⟩ := hl
                  simp only [List.length_cons] at *
                  omega
                · simp at hl
          · simp at hl
        · simp only [Except.ok.injEq, Prod.mk.injEq] at h
          obtain ⟨-, rfl⟩ := h
          omega
      · simp only [Except.ok.injEq, Prod.mk.injEq] at h
        obtain ⟨-, rfl⟩ := h
        omega

theorem readEscape_length {c : Char} {code : Nat} {text rest : Text}
    (h : readEscape c text = .ok (code, rest)) : rest.length ≤ text.length := by
  unfold readEscape at h
  split at h
  · exact readUnicodeEscape_length h
  · split at h
    · simp only [Except.ok.injEq, Prod.mk.injEq] at h
      obtain ⟨-, rfl⟩ := h
      exact Nat.le_refl _
    · simp at h

/-- The code points of a text after its opening mark, and what follows the closing one. The first
argument counts the characters from the opening mark on. -/
def readText (opening : Nat) (text : Text) : Except Fault (List Nat × Text) :=
  match text with
  | [] => .error ⟨.openText, opening⟩
  | '"' :: rest => .ok ([], rest)
  | '\\' :: rest =>
    match rest with
    | [] => .error ⟨.openText, opening⟩
    | c :: rest =>
      match _ : readEscape c rest with
      | .error fault => .error fault
      | .ok (d, rest) => (readText opening rest).map fun (s, after) => (d :: s, after)
  | c :: rest =>
    if c.toNat < 32 then .error (Fault.here .controlCharacter (c :: rest))
    else (readText opening rest).map fun (s, after) => (c.toNat :: s, after)
termination_by text.length
decreasing_by
  · have := readEscape_length (by assumption)
    simp only [List.length_cons]
    omega
  · simp

/-! ### Numbers -/

/-- The fraction of a number: a point and at least one digit. -/
def readFraction : Text → Text × Text
  | '.' :: rest =>
    let digits := rest.takeWhile Char.isDigit
    if digits.isEmpty then ([], '.' :: rest) else (digits, rest.dropWhile Char.isDigit)
  | text => ([], text)

/-- The value of a run of ASCII digits. -/
def digitsValue (digits : Text) : Nat :=
  Text.ofDigits 10 (digits.map fun c => c.toNat - 48)

/-- The exponent of a number: a letter, an optional sign and at least one digit. -/
def readExponent (text : Text) : Option (Int × Text) :=
  match text with
  | [] => none
  | e :: rest =>
    if e = 'e' || e = 'E' then
      let (negative, rest) := match rest with
        | '-' :: more => (true, more)
        | '+' :: more => (false, more)
        | more => (false, more)
      let digits := rest.takeWhile Char.isDigit
      if digits.isEmpty then none
      else
        let n := Int.ofNat (digitsValue digits)
        some (if negative then -n else n, rest.dropWhile Char.isDigit)
    else none

/-- The whole part of a number: a single zero, or digits that start with another one. -/
def readWhole : Text → Option (Text × Text)
  | '0' :: rest => some (['0'], rest)
  | text =>
    let digits := text.takeWhile Char.isDigit
    if digits.isEmpty then none else some (digits, text.dropWhile Char.isDigit)

/-- A number without its sign. An integer with more digits than the limit, if there is one, is a
fault, which is placed at the number. -/
def readNumber (limit : Option Nat) (negative : Bool) (start text : Text) :
    Except Fault (Data × Text) :=
  match readWhole text with
  | none => .error (Fault.here .noValue start)
  | some (whole, rest) =>
    let (fraction, rest) := readFraction rest
    match readExponent rest with
    | some (exponent, rest) =>
      .ok (.real (Binary64.ofDecimal negative (digitsValue (whole ++ fraction))
        (exponent - fraction.length)), rest)
    | none =>
      if !fraction.isEmpty then
        .ok (.real (Binary64.ofDecimal negative (digitsValue (whole ++ fraction))
          (-Int.ofNat fraction.length)), rest)
      else if limit.any (· < whole.length) then
        .error (Fault.here (.tooManyDigits whole.length) start)
      else
        let n := Int.ofNat (digitsValue whole)
        .ok (.int (if negative then -n else n), rest)

/-! ### Values -/

/-- The values that are written as a word. -/
def keywords : List (Text × Data) :=
  [("null", .null), ("true", .bool true), ("false", .bool false), ("NaN", .real .nan),
   ("Infinity", .real (.infinite false)), ("-Infinity", .real (.infinite true))]

/-- The keyword at the start of a text. -/
def readKeyword (text : Text) : Option (Data × Text) :=
  keywords.findSome? fun (word, value) => (text.after? word).map (value, ·)

/-- A value without parts: a keyword, a text or a number. -/
def readPlain (halves : Halves) (limit : Option Nat) (text : Text) : Except Fault (Data × Text) :=
  match readKeyword text with
  | some result => .ok result
  | none =>
    match text with
    | '"' :: rest =>
      (readText text.length rest).map fun (codes, after) => (.ofCodes halves codes, after)
    | '-' :: rest => readNumber limit true text rest
    | _ => readNumber limit false text text

mutual

/-- A value at the start of a text. The second argument bounds the nesting. -/
def readValue (halves : Halves) (limit : Option Nat) : Nat → Text → Except Fault (Data × Text)
  | 0, text => .error (Fault.here .noValue text)
  | fuel + 1, text =>
    match text with
    | '[' :: rest =>
      match skipGap rest with
      | ']' :: after => .ok (.arr [], after)
      | rest => (readItems halves limit fuel rest).map fun (items, after) => (.arr items, after)
    | '\x7b' :: rest =>
      match skipGap rest with
      | '\x7d' :: after => .ok (.obj [], after)
      | rest =>
        (readMembers halves limit fuel rest).map fun (pairs, after) => (.ofPairs pairs, after)
    | text => readPlain halves limit text

/-- The items of a list from one item on, and what follows the closing bracket. -/
def readItems (halves : Halves) (limit : Option Nat) :
    Nat → Text → Except Fault (List Data × Text)
  | 0, text => .error (Fault.here .noValue text)
  | fuel + 1, text =>
    match readValue halves limit fuel text with
    | .error fault => .error fault
    | .ok (item, rest) =>
      match skipGap rest with
      | ']' :: after => .ok ([item], after)
      | ',' :: rest =>
        (readItems halves limit fuel (skipGap rest)).map fun (items, after) =>
          (item :: items, after)
      | rest => .error (Fault.here .noComma rest)

/-- The members of an object from one name on, and what follows the closing brace. -/
def readMembers (halves : Halves) (limit : Option Nat) :
    Nat → Text → Except Fault (List (Data × Data) × Text)
  | 0, text => .error (Fault.here .noName text)
  | fuel + 1, text =>
    match text with
    | '"' :: rest =>
      match readText text.length rest with
      | .error fault => .error fault
      | .ok (name, rest) =>
        match skipGap rest with
        | ':' :: rest =>
          match readValue halves limit fuel (skipGap rest) with
          | .error fault => .error fault
          | .ok (value, rest) =>
            match skipGap rest with
            | '\x7d' :: after => .ok ([(.ofCodes halves name, value)], after)
            | ',' :: rest =>
              (readMembers halves limit fuel (skipGap rest)).map fun (pairs, after) =>
                ((.ofCodes halves name, value) :: pairs, after)
            | rest => .error (Fault.here .noComma rest)
        | rest => .error (Fault.here .noColon rest)
    | text => .error (Fault.here .noName text)

end

/-- The value that a text holds, if no integer has more digits than a limit, with characters that
stand for the halves of pairs. -/
def readWith (halves : Halves) (limit : Option Nat) (text : Text) : Except Fault Data :=
  if text.head? = some (Char.ofNat 0xFEFF) then .error (Fault.here .byteOrderMark text)
  else
    match readValue halves limit (2 * text.length + 2) (skipGap text) with
    | .error fault => .error fault
    | .ok (value, rest) =>
      match skipGap rest with
      | [] => .ok value
      | rest => .error (Fault.here .extraData rest)

/-- The value that a text holds, if no integer has more digits than a limit. -/
def readWithin (limit : Option Nat) (text : Text) : Except Fault Data :=
  readWith .standard limit text

/-- The value that a text holds. -/
def read (text : Text) : Except Fault Data :=
  readWithin (some Text.digitLimit) text

/-! ### Wording -/

/-- The wording of a cause. -/
def Cause.message : Cause → Text
  | .noValue => "Expecting value"
  | .noName => "Expecting property name enclosed in double quotes"
  | .noColon => "Expecting ':' delimiter"
  | .noComma => "Expecting ',' delimiter"
  | .openText => "Unterminated string starting at"
  | .controlCharacter => "Invalid control character at"
  | .badEscape => "Invalid \\escape"
  | .badUnicodeEscape => "Invalid \\uXXXX escape"
  | .extraData => "Extra data"
  | .byteOrderMark => "Unexpected UTF-8 BOM (decode using utf-8-sig)"
  | .tooManyDigits count => Text.tooManyDigits count

/-- The wording of a fault in a text, with the line and the column, both from one, and the offset.
-/
def Fault.message (text : Text) (fault : Fault) : Text :=
  let offset := text.length - fault.remaining
  let before := text.take offset
  let line := before.count '\n' + 1
  let column := (before.reverse.takeWhile (· ≠ '\n')).length + 1
  fault.cause.message ++ ": line " ++ Text.decimal line ++ " column " ++ Text.decimal column
    ++ " (char " ++ Text.decimal offset ++ ")"

end BlockTree.Json
