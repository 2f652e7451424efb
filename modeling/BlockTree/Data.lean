import BlockTree.Binary64.Shortest
import BlockTree.Entries
import BlockTree.Text.Halves

/-!
Structured data: null, booleans, numbers, texts, lists and named members in order.

* `Data`: the data that documents, options and messages are read from and written to. A mapping may
  have names that are no texts, and a scalar may be of a kind that nothing here accepts;
* `Data.ofCodes`: the text of some code points, halves of surrogate pairs included;
* `Data.ofPairs`: the mapping of a list of pairs, a later pair replacing the value of an earlier
  one;
* `Data.spell`: a value on one line, as messages quote it;
* `Data.truthy`: the value is not empty, zero or null.
-/

namespace BlockTree

/-- Structured data. Members keep the order in which they were first mentioned; in a mixed mapping,
those whose names are no texts are kept apart. -/
inductive Data where
  | null
  | bool (value : Bool)
  | int (value : Int)
  | real (value : Binary64)
  | str (value : Text)
  | arr (items : List Data)
  | obj (members : List (Text × Data))
  | mixed (members : List (Text × Data)) (others : List (Data × Data))
  | foreign (spelling : Text)

namespace Data

instance : Inhabited Data := ⟨.null⟩

/-! ### Spelling -/

mutual

/-- A value on one line, its texts quoted. -/
def spell : Data → Text
  | .null => "None"
  | .bool true => "True"
  | .bool false => "False"
  | .int n => Text.integer n
  | .real x => x.text "inf" "nan"
  | .str s => Text.quote s
  | .arr items => "[" ++ Text.join ", " (spellItems items) ++ "]"
  | .obj members => ['\x7b'] ++ Text.join ", " (spellMembers members) ++ ['\x7d']
  | .mixed members others =>
    ['\x7b'] ++ Text.join ", " (spellMembers members ++ spellPairs others) ++ ['\x7d']
  | .foreign spelling => spelling

/-- The items of a list, each on one line. -/
def spellItems : List Data → List Text
  | [] => []
  | item :: rest => item.spell :: spellItems rest

/-- The members, each as its quoted name, a colon and its value. -/
def spellMembers : List (Text × Data) → List Text
  | [] => []
  | (name, value) :: rest => (Text.quote name ++ ": " ++ value.spell) :: spellMembers rest

/-- The members whose names are no texts. -/
def spellPairs : List (Data × Data) → List Text
  | [] => []
  | (name, value) :: rest => (name.spell ++ ": " ++ value.spell) :: spellPairs rest

end

/-- A text as it stands, any other value on one line. -/
def plain : Data → Text
  | .str s => s
  | value => value.spell

/-- The value is neither null nor false nor zero nor empty. -/
def truthy : Data → Bool
  | .null => false
  | .bool b => b
  | .int n => n ≠ 0
  | .real (.finite _ mantissa _) => mantissa ≠ 0
  | .real _ => true
  | .str s => !s.isEmpty
  | .arr items => !items.isEmpty
  | .obj members => !members.isEmpty
  | .mixed _ _ => true
  -- Octets and sets have spellings of their own when they are empty.
  | .foreign spelling => spelling ≠ "b''" && spelling ≠ "set()"

/-- The value is a mapping. -/
def isMapping : Data → Bool
  | .obj _ => true
  | .mixed _ _ => true
  | _ => false

/-! ### Texts -/

/-- The text of some code points. Halves of pairs are among its characters like any others. -/
def ofCodes (halves : Halves) (codes : List Nat) : Data :=
  .str (codes.map halves.ofCode)

/-! ### Mappings -/

/-- The whole number that a value is equal to. -/
def whole? : Data → Option Int
  | .bool b => some (if b then 1 else 0)
  | .int n => some n
  | .real x => x.toInt?
  | _ => none

/-- Two values are the same name: equal numbers are, whatever their kind. -/
def sameName (a b : Data) : Bool :=
  match a.whole?, b.whole? with
  | some m, some n => m = n
  | none, none =>
    match a, b with
    | .null, .null => true
    | .real x, .real y => x = y
    | .foreign s, .foreign t => s = t
    | _, _ => false
  | _, _ => false

/-- Sets the value of a name that is no text. -/
def insertOther (name value : Data) : List (Data × Data) → List (Data × Data)
  | [] => [(name, value)]
  | (key, old) :: rest =>
    if key.sameName name then (key, value) :: rest else (key, old) :: insertOther name value rest

/-- The mapping of a list of pairs. -/
def ofPairs (pairs : List (Data × Data)) : Data :=
  let members := pairs.filterMap fun (name, value) =>
    match name with
    | .str s => some (s, value)
    | _ => none
  let others := pairs.foldl
    (fun others (name, value) =>
      match name with
      | .str _ => others
      | name => insertOther name value others)
    []
  if others.isEmpty then .obj (Entries.ofList members) else .mixed (Entries.ofList members) others

end Data

end BlockTree
