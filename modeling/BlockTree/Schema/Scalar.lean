import BlockTree.Schema.Check
import BlockTree.Schema.Numeral

/-!
Checks of plain values and of lists and mappings of them.

Texts, lists and mappings are taken as they are. Integers and booleans are also read from other
kinds of values that stand for one.
-/

namespace BlockTree.Schema

variable {α : Type}

/-- A text. -/
def text : Data → Check Text
  | .str s => .ok s
  | _ => .fail .notText

/-- A value, or null. -/
def optional (check : Data → Check α) : Data → Check (Option α)
  | .null => .ok none
  | value => some <$> check value

/-- The items of a list from an index on. -/
def items (check : Data → Check α) (index : Nat) : List Data → Check (List α)
  | [] => .ok []
  | item :: rest =>
    List.cons <$> (check item).within (.index index) <*> items check (index + 1) rest

/-- A list. -/
def list (check : Data → Check α) : Data → Check (List α)
  | .arr values => items check 0 values
  | _ => .fail .notList

/-- The members of a mapping. -/
def entries (check : Data → Check α) : List (Text × Data) → Check (Entries α)
  | [] => .ok []
  | (name, value) :: rest =>
    (fun a more => (name, a) :: more) <$> (check value).within (.name name) <*> entries check rest

/-- A report for every member whose name is no text, and the issues of its value. -/
def strangers (check : Data → Check α) : List (Data × Data) → Check Unit
  | [] => .ok ()
  | (name, value) :: rest =>
    let step := Step.name name.plain
    (fun _ _ done => done)
      <$> (((Check.fail .notText : Check Unit).within (.name "[key]")).within step)
      <*> (check value).within step <*> strangers check rest

/-- A mapping, all of whose names are texts. -/
def mapping (check : Data → Check α) : Data → Check (Entries α)
  | .obj members => entries check members
  | .mixed members others =>
    (fun members _ => members) <$> entries check members <*> strangers check others
  | _ => .fail .notMapping

/-- One of some words, each of which stands for a value. -/
def oneOf (word : α → Text) (values : List α) : Data → Check α
  | .str s =>
    match values.find? fun value => word value = s with
    | some value => .ok value
    | none => .fail (.notOneOf (values.map word))
  | _ => .fail (.notOneOf (values.map word))

/-! ### Integers -/

/-- An integer whose magnitude fits into 63 bits stands for the real number that it is equal to. -/
def integerOfReal (x : Binary64) : Check Int :=
  match x with
  | .finite _ _ _ =>
    match x.toInt? with
    | none => .fail .fraction
    | some n => if n.natAbs < Nat.pow 2 63 then .ok n else .fail .tooLarge
  | _ => .fail .notFinite

/-- An integer, or a boolean, a real number or a text that stands for one. -/
def integer : Data → Check Int
  | .int n => .ok n
  | .bool b => .ok (if b then 1 else 0)
  | .real x => integerOfReal x
  | .str s =>
    match Numeral.read s with
    | .ok n => .ok n
    | .error .notANumeral => .fail .notNumeral
    | .error .tooLong => .fail .tooLarge
  | _ => .fail .notInteger

/-- An integer that is not below a bound. -/
def integerFrom (least : Int) (value : Data) : Check Int :=
  (integer value).ensure fun n => if n < least then some (.below least) else none

/-- An integer between two bounds. -/
def integerBetween (least greatest : Int) (value : Data) : Check Int :=
  (integerFrom least value).ensure fun n => if greatest < n then some (.above greatest) else none

/-! ### Booleans -/

/-- The words for false. -/
def falseWords : List Text := ["0", "off", "f", "false", "n", "no"]

/-- The words for true. -/
def trueWords : List Text := ["1", "on", "t", "true", "y", "yes"]

/-- The integer is a signed number of 64 bits. -/
def isWord64 (n : Int) : Bool :=
  -Int.ofNat (Nat.pow 2 63) ≤ n && n < Int.ofNat (Nat.pow 2 63)

/-- The truth value that an integer stands for. -/
def booleanOfInteger (n : Int) : Check Bool :=
  if n = 0 then .ok false
  else if n = 1 then .ok true
  else .fail .unclearBoolean

/-- A truth value, or a number or a word that stands for one. Only an integer of 64 bits, and a real
number that stands for one, are unclear; other numbers are no truth values at all. -/
def boolean : Data → Check Bool
  | .bool b => .ok b
  | .int n => if isWord64 n then booleanOfInteger n else .fail .notBoolean
  | .real x =>
    match integerOfReal x with
    | .ok n => booleanOfInteger n
    | _ => .fail .notBoolean
  | .str s =>
    let word := s.map Char.toLower
    if falseWords.contains word then .ok false
    else if trueWords.contains word then .ok true
    else .fail .unclearBoolean
  | _ => .fail .notBoolean

end BlockTree.Schema
