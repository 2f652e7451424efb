import BlockTree.Data

/-!
Writing structured data in a stable form.

* `Json.write`: members sorted by name, two blanks of indentation per level, characters beyond ASCII
  as they are, a line feed at the end. Equal data up to the order of members give equal texts; a
  value of a foreign kind is written as the text of its spelling.
-/

namespace BlockTree.Json

/-- How a character is written inside a written text. -/
def writeChar (c : Char) : Text :=
  if c = '"' then "\\\""
  else if c = '\\' then "\\\\"
  else if c = '\n' then "\\n"
  else if c = '\r' then "\\r"
  else if c = '\t' then "\\t"
  else if c = '\x0c' then "\\f"
  else if c = '\x08' then "\\b"
  else if c.toNat < 32 then "\\u" ++ Text.paddedHex 4 c.toNat
  else [c]

/-- A text in double quotation marks. -/
def writeText (text : Text) : Text :=
  '"' :: text.flatMap writeChar ++ ['"']

/-- A line feed and the indentation of a level. -/
def newLine (level : Nat) : Text :=
  '\n' :: List.replicate (2 * level) ' '

/-- A list of written parts between two brackets, each part on a line of its own one level deeper.
-/
def enclose (opening closing : Char) (level : Nat) (parts : List Text) : Text :=
  if parts.isEmpty then [opening, closing]
  else
    [opening] ++ newLine (level + 1) ++ Text.join (',' :: newLine (level + 1)) parts
      ++ newLine level ++ [closing]

/-- The first text does not come after the second in the order of code points. -/
def notAfter : Text → Text → Bool
  | [], _ => true
  | _ :: _, [] => false
  | c :: text, d :: other => if c = d then notAfter text other else c.toNat < d.toNat

/-- The order of members by their names. -/
def nameOrder {α : Type} (a b : Text × α) : Bool :=
  notAfter a.1 b.1

mutual

/-- A value whose first line stands at a level of indentation. An integer is written here whatever
it is; if one cannot be written (`Text.isWritable`), that is a value error, and there is no text. -/
def writeAt (level : Nat) : Data → Text
  | .null => "null"
  | .bool true => "true"
  | .bool false => "false"
  | .int n => Text.integer n
  | .real x => x.text "Infinity" "NaN"
  | .str s => writeText s
  | .arr items => enclose '[' ']' level (writeItems (level + 1) items)
  | .obj members =>
    enclose '\x7b' '\x7d' level
      (((writeMembers (level + 1) members).mergeSort nameOrder).map
        fun member => writeText member.1 ++ ": " ++ member.2)
  | .mixed members others =>
    enclose '\x7b' '\x7d' level
      (((writeMembers (level + 1) members ++ writePairs (level + 1) others).mergeSort
          nameOrder).map
        fun member => writeText member.1 ++ ": " ++ member.2)
  | .foreign spelling => writeText spelling

/-- The items of a list at a level of indentation. -/
def writeItems (level : Nat) : List Data → List Text
  | [] => []
  | item :: rest => writeAt level item :: writeItems level rest

/-- The names of the members with their written values at a level of indentation. -/
def writeMembers (level : Nat) : List (Text × Data) → List (Text × Text)
  | [] => []
  | (name, value) :: rest => (name, writeAt level value) :: writeMembers level rest

/-- The members whose names are no texts, under the names that they are spelled with. -/
def writePairs (level : Nat) : List (Data × Data) → List (Text × Text)
  | [] => []
  | (name, value) :: rest => (name.plain, writeAt level value) :: writePairs level rest

end

/-- The stable text of a value. -/
def write (value : Data) : Text :=
  writeAt 0 value ++ ['\n']

end BlockTree.Json
