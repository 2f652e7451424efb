import BlockTree.Binary64.Arithmetic
import BlockTree.Yaml.Fault

/-!
Plain words for numbers.

* `integer?`: binary, octal, decimal and hexadecimal integers and integers in base sixty;
* `real?`: real numbers with a point, in base ten or sixty, infinities, and the one that is none.

A word of the right form may still stand for no number: a decimal with too many digits, or a base
without digits.
-/

namespace BlockTree.Yaml

/-- The sign in front of a number, and the rest. -/
def splitSign : Text → Bool × Text
  | '-' :: rest => (true, rest)
  | '+' :: rest => (false, rest)
  | rest => (false, rest)

/-- A digit or an underscore. -/
def isDigitOrLine (c : Char) : Bool :=
  c.isDigit || c = '_'

/-- The digits of a numeral without its underscores. -/
def withoutLines (digits : Text) : Text :=
  digits.filter (· ≠ '_')

/-- The value of digits in a base of at most sixteen, underscores ignored. -/
def valueIn (base : Nat) (digits : Text) : Nat :=
  Text.ofDigits base ((withoutLines digits).filterMap Text.hexValue?)

/-- The value of digits after the mark of their base. -/
def basedValue (base : Nat) (digits : Text) : Except Fault Nat :=
  if (withoutLines digits).isEmpty then .error (.noDigits base) else .ok (valueIn base digits)

/-- The value of decimal digits, which must not be too many. -/
def decimalValue (digits : Text) : Except Fault Nat :=
  let count := (withoutLines digits).length
  if Text.digitLimit < count then .error (.tooManyDigits count) else .ok (valueIn 10 digits)

/-! ### Base sixty -/

/-- One or two digits that make up a number below sixty. -/
def isSixtieth : Text → Bool
  | [a] => a.isDigit
  | [a, b] => '0' ≤ a && a ≤ '5' && b.isDigit
  | _ => false

/-- The places of a numeral in base sixty: a first one of any size, and sixtieths. -/
def sixtyPlaces? (text : Text) : Option (Text × List Text) :=
  match Text.splitOn ':' text with
  | first :: second :: more =>
    if first.all isDigitOrLine && (second :: more).all isSixtieth then
      some (first, second :: more)
    else none
  | _ => none

/-! ### Integers -/

/-- The magnitude of an integer. -/
def magnitude? (text : Text) : Option (Except Fault Nat) :=
  match text with
  | '0' :: 'b' :: c :: digits =>
    if (c :: digits).all (fun d => d = '0' || d = '1' || d = '_') then
      some (basedValue 2 (c :: digits))
    else none
  | '0' :: 'x' :: c :: digits =>
    if (c :: digits).all (fun d => (Text.hexValue? d).isSome || d = '_') then
      some (basedValue 16 (c :: digits))
    else none
  | '0' :: digits =>
    if digits.all (fun d => ('0' ≤ d && d ≤ '7') || d = '_') then some (.ok (valueIn 8 digits))
    else none
  | c :: digits =>
    if !c.isDigit then none
    else if digits.all isDigitOrLine then some (decimalValue (c :: digits))
    else
      (sixtyPlaces? (c :: digits)).map fun (first, sixtieths) =>
        (decimalValue first).map fun value =>
          Text.ofDigits 60 (value :: sixtieths.map (valueIn 10))
  | [] => none

/-- The integer that a word stands for. -/
def integer? (word : Text) : Option (Except Fault Int) :=
  let (negative, rest) := splitSign word
  (magnitude? rest).map fun magnitude =>
    magnitude.map fun n => if negative then -Int.ofNat n else Int.ofNat n

/-! ### Real numbers -/

/-- The exponent of a real number: a letter, a sign and digits. -/
def exponent? : Text → Option Int
  | [] => some 0
  | e :: sign :: digits =>
    if (e = 'e' || e = 'E') && (sign = '-' || sign = '+') && !digits.isEmpty
        && digits.all Char.isDigit then
      let n := Int.ofNat (valueIn 10 digits)
      some (if sign = '-' then -n else n)
    else none
  | _ => none

/-- The real number with these digits in front of the point and after it. -/
def decimalReal (whole fraction : Text) (exponent : Int) : Binary64 :=
  let fraction := withoutLines fraction
  Binary64.ofDecimal false (valueIn 10 (whole ++ fraction)) (exponent - fraction.length)

/-- The real number with a whole part, and a fraction with an exponent after the point. -/
def pointed? (whole after : Text) : Option Binary64 :=
  (exponent? (after.dropWhile isDigitOrLine)).map
    (decimalReal whole (after.takeWhile isDigitOrLine))

/-- The sum of places, the last one first, each times its power of sixty. Every step is rounded. -/
def sumPlaces (power : Nat) (sum : Binary64) : List Binary64 → Except Fault Binary64
  | [] => .ok sum
  | place :: rest =>
    match Binary64.ofNat? power with
    | none => .error .hugeReal
    | some factor => sumPlaces (60 * power) (sum.add (place.mul factor)) rest

/-- The real number in base sixty, with a fraction after the point. -/
def sixtyReal? (whole fraction : Text) : Option (Except Fault Binary64) :=
  match sixtyPlaces? whole with
  | some (first, sixtieths) =>
    if fraction.all isDigitOrLine then
      match (first :: sixtieths).reverse with
      | last :: front =>
        some (sumPlaces 1 (.finite false 0 Binary64.minExponent)
          (decimalReal last fraction 0 :: front.map fun place => decimalReal place [] 0))
      | [] => none
    else none
  | none => none

/-- The magnitude of a real number. A number that starts with the point has no sign. -/
def realMagnitude? (signed : Bool) (text : Text) : Option (Except Fault Binary64) :=
  match Text.cut? '.' text with
  | none => none
  | some ([], after) =>
    if !signed && after.head?.any Char.isDigit then (pointed? [] after).map .ok else none
  | some (c :: whole, after) =>
    if !c.isDigit then none
    else if whole.all isDigitOrLine then (pointed? (c :: whole) after).map .ok
    else sixtyReal? (c :: whole) after

/-- The real number that a word stands for. -/
def real? (word : Text) : Option (Except Fault Binary64) :=
  let (negative, rest) := splitSign word
  if [".nan".toList, ".NaN", ".NAN"].contains word then some (.ok .nan)
  else if [".inf".toList, ".Inf", ".INF"].contains rest then some (.ok (.infinite negative))
  else
    (realMagnitude? (rest ≠ word) rest).map fun magnitude =>
      magnitude.map fun x => if negative then x.negate else x

end BlockTree.Yaml
