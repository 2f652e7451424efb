import BlockTree.Text.Class

/-!
Numerals: whole numbers written and read in decimal and hexadecimal.

* `decimal`, `hexadecimal`, `integer`: the digits of a number, without leading zeros;
* `ofDigits`: the number that a list of digit values stands for, most significant first;
* `digitLimit`: no more decimal digits than this are turned into a number, or a number into digits;
* `readInteger`: a signed numeral with digits of any script and single underscores between digits.

`mem_integer` says which characters a written integer has.
-/

namespace BlockTree.Text

/-- The decimal numeral of a number. -/
def decimal (n : Nat) : Text :=
  Nat.toDigits 10 n

/-- The hexadecimal numeral of a number, in small letters. -/
def hexadecimal (n : Nat) : Text :=
  Nat.toDigits 16 n

/-- The decimal numeral of an integer, with a minus sign below zero. -/
def integer : Int → Text
  | .ofNat n => decimal n
  | .negSucc n => '-' :: decimal (n + 1)

/-- The number written with these digit values, most significant first. -/
def ofDigits (base : Nat) (digits : List Nat) : Nat :=
  digits.foldl (fun n d => base * n + d) 0

/-- The greatest number of decimal digits that is turned into a number. -/
def digitLimit : Nat := 4300

/-- The complaint about a decimal numeral with too many digits. -/
def tooManyDigits (count : Nat) : Text :=
  "Exceeds the limit (" ++ decimal digitLimit
    ++ " digits) for integer string conversion: value has "
    ++ decimal count
    ++ " digits; use sys.set_int_max_str_digits() to increase the limit"

/-- An integer can be written if it has no more digits than that. -/
def isWritable (n : Int) : Bool :=
  (decimal n.natAbs).length ≤ digitLimit

/-- The complaint about an integer that cannot be written. -/
def tooLongToWrite : Text :=
  "Exceeds the limit (" ++ decimal digitLimit
    ++ " digits) for integer string conversion"
    ++ "; use sys.set_int_max_str_digits() to increase the limit"

/-- What is wrong with a text that should be a numeral. -/
inductive NumeralFault where
  | notANumeral
  | tooLong (digits : Nat)
  deriving DecidableEq, Repr

/-- The characters of a numeral: digits of any script, and underscores. -/
def isNumeralChar (c : Char) : Bool :=
  (digitValue? c).isSome || c = '_'

/-- Every underscore has a digit on both sides. The argument is a run of numeral characters. -/
def separated : Text → Bool
  | [] => true
  | ['_'] => false
  | '_' :: '_' :: _ => false
  | _ :: rest => separated rest

/-- The magnitude of a numeral without sign. Too many digits are noticed before what follows them.
-/
def readMagnitude (text : Text) : Except NumeralFault Nat :=
  let run := text.takeWhile isNumeralChar
  let digits := run.filterMap digitValue?
  if digits.isEmpty || run.head? = some '_' || !separated run then .error .notANumeral
  else if digitLimit < digits.length then .error (.tooLong digits.length)
  else if (text.dropWhile isNumeralChar).isEmpty then .ok (ofDigits 10 digits)
  else .error .notANumeral

/-- An integer written with an optional sign and digits of any script, with white space around it.
-/
def readInteger (text : Text) : Except NumeralFault Int :=
  match trim isSpace text with
  | '-' :: rest => (readMagnitude rest).map fun n => -Int.ofNat n
  | '+' :: rest => (readMagnitude rest).map Int.ofNat
  | rest => (readMagnitude rest).map Int.ofNat

/-! ### Laws -/

/-- The numeral of an integer consists of digits, and of a minus sign below zero. -/
theorem mem_integer {n : Int} {c : Char} (h : c ∈ integer n) : c = '-' ∨ c.isDigit = true := by
  cases n with
  | ofNat n => exact Or.inr (Nat.isDigit_of_mem_toDigits (by decide) (by decide) h)
  | negSucc n =>
    rcases List.mem_cons.1 h with rfl | h
    · exact Or.inl rfl
    · exact Or.inr (Nat.isDigit_of_mem_toDigits (by decide) (by decide) h)

end BlockTree.Text
