import BlockTree.Text.Numeral

/-!
Texts that stand for an integer in data.

* `Numeral.strict`: a minus sign at most, and digits without zeros in front;
* `Numeral.clean?`: a text without white space around it, without a plus sign, without zeros and
  underscores in front of its digits, without a fraction of zeros, and without single underscores
  between digits;
* `Numeral.read`: a text is read as it is, and else after it has been cleaned.
-/

namespace BlockTree.Schema.Numeral

/-- Why a text stands for no integer. -/
inductive Fault where
  | notANumeral
  | tooLong
  deriving DecidableEq, Repr

/-- Too many characters are noticed before what follows the digits; a sign is one of them. -/
def strict (text : Text) : Except Fault Int :=
  let negative := text.head? = some '-'
  let unsigned := if negative then text.tail else text
  let digits := unsigned.takeWhile Char.isDigit
  let length := digits.length + (if negative then 1 else 0)
  if digits.isEmpty || (digits.head? = some '0' && 1 < digits.length) then .error .notANumeral
  else if Text.digitLimit < length then .error .tooLong
  else if digits.length ≠ unsigned.length then .error .notANumeral
  else
    let n := Int.ofNat (Text.ofDigits 10 (digits.map fun c => c.toNat - 48))
    .ok (if negative then -n else n)

/-! ### Cleaning -/

/-- The sign in front of a text, whether it is a minus sign, and the rest. No minus sign may follow
a sign. -/
def splitSign? : Text → Option (Bool × Text)
  | '+' :: '-' :: _ => none
  | '-' :: '-' :: _ => none
  | '+' :: rest => some (false, rest)
  | '-' :: rest => some (true, rest)
  | text => some (false, text)

/-- The rest of a text after a zero and the zeros and underscores that follow it. The last of these
stays in front of a point and at the end of the text; only a digit or a minus sign may come else. -/
def afterZeros? (last : Char) : Text → Option Text
  | [] => some [last]
  | c :: rest =>
    if c = '0' || c = '_' then afterZeros? c rest
    else if c.isDigit || c = '-' then some (c :: rest)
    else if c = '.' then some (last :: c :: rest)
    else none

/-- A text without the zeros in front. It has to start with a digit. -/
def withoutZeros? : Text → Option Text
  | [] => none
  | c :: rest =>
    if c = '0' then afterZeros? c rest
    else if c.isDigit then some (c :: rest)
    else none

/-- A text without the fraction after its first point, if that consists of zeros. -/
def withoutFraction (text : Text) : Text :=
  match Text.cut? '.' text with
  | some (whole, fraction) =>
    if !fraction.isEmpty && fraction.all (· = '0') then whole else text
  | none => text

/-- A text without its underscores, if none stands at an end or next to another. -/
def withoutLines (text : Text) : Text :=
  if text.head? ≠ some '_' && Text.separated text then text.filter (· ≠ '_') else text

/-- A text without what is allowed around the digits of a numeral. A minus sign in front is put back
after the rest has been cleaned. -/
def clean? (text : Text) : Option Text :=
  (splitSign? (Text.trim Text.isSpace text)).bind fun (negative, rest) =>
    (withoutZeros? rest).map fun digits =>
      let cleaned := withoutLines (withoutFraction digits)
      if negative then '-' :: cleaned else cleaned

/-- The integer that a text stands for. -/
def read (text : Text) : Except Fault Int :=
  match strict text with
  | .error .notANumeral =>
    match clean? text with
    | some cleaned => strict cleaned
    | none => .error .notANumeral
  | result => result

end BlockTree.Schema.Numeral
