import BlockTree.Attributes.Token
import BlockTree.Entries

/-!
Attributes: names with lists of values, in order of first mention.

* `Attributes.readList`: the attributes of a written list, with one complaint per illegal word;
* `Attributes.merge`: defaults replace the values of the names that they share with the attributes;
* `Attributes.serialize`: the attributes as they stand inside a tag;
* `Attributes.Spec.resolve`: the attributes that a block asks for, which fails on an illegal list.
-/

namespace BlockTree

/-- Lists of values under attribute names, in order of first mention. -/
abbrev Attributes := Entries (List Text)

namespace Attributes

/-! ### Written lists -/

/-- A list without the braces around it: an opening brace with a colon, and a closing brace. -/
def unwrap (raw : Text) : Text :=
  match Text.trim Text.isBlank raw with
  | '\x7b' :: ':' :: rest =>
    if rest.getLast? = some '\x7d' then Text.trim Text.isBlank rest.dropLast
    else '\x7b' :: ':' :: rest
  | text => text

/-- The attributes of a list, and one complaint per illegal word. -/
structure Reading where
  attributes : Attributes
  complaints : List Text
  deriving DecidableEq, Repr

/-- A reader of attribute lists. -/
abbrev Reader := Text → Reading

/-- The complaint about an illegal word. -/
def complaint (word : Text) : Text :=
  "illegal attribute token " ++ Text.quote word

/-- Takes a piece of a list into account. -/
def Reading.add (reading : Reading) : Piece → Reading
  | .token token => { reading with attributes := reading.attributes.append token.name token.value }
  | .illegal word => { reading with complaints := reading.complaints ++ [complaint word] }

/-- The attributes of a written list: the values of a name in the order of the tokens. -/
def readList : Reader := fun raw =>
  (pieces (unwrap raw)).foldl Reading.add ⟨[], []⟩

/-- A reader that keeps the list as one value and complains about each exclamation mark. -/
def readVerbatim : Reader := fun raw =>
  ⟨[("data-raw", [raw])], List.replicate (raw.count '!') "bang"⟩

/-- A written list with illegal words in it. -/
structure IllegalList where
  raw : Text
  complaints : List Text
  deriving DecidableEq, Repr

/-- The wording of the fault. -/
def IllegalList.message (fault : IllegalList) : Text :=
  "illegal attributes in " ++ Text.quote fault.raw ++ ": " ++ Text.join "; " fault.complaints

/-- The attributes of a list that must be free of illegal words. -/
def readStrict (reader : Reader) (raw : Text) : Except IllegalList Attributes :=
  let reading := reader raw
  if reading.complaints.isEmpty then .ok reading.attributes
  else .error ⟨raw, reading.complaints⟩

/-! ### Merging and writing -/

/-- The attributes with the defaults set in them: a name present in both keeps its place and takes
the values of the default. -/
def merge (attributes defaults : Attributes) : Attributes :=
  attributes.insertAll defaults

/-- One attribute as it stands inside a tag. -/
def serializeOne (name : Text) (values : List Text) : Text :=
  name ++ "=\"" ++ Text.join " " values ++ "\""

/-- The attributes as they stand inside a tag, with single blanks between them. -/
def serialize (attributes : Attributes) : Text :=
  Text.join " " (attributes.map fun entry => serializeOne entry.1 entry.2)

/-! ### Attributes of a block -/

/-- The attributes that a block asks for: none, a written list, or names with values. -/
inductive Spec where
  | absent
  | written (raw : Text)
  | listed (attributes : Attributes)
  deriving DecidableEq, Repr

/-- The attributes that a specification stands for. -/
def Spec.resolve (reader : Reader) : Spec → Except IllegalList Attributes
  | .absent => .ok []
  | .written raw => readStrict reader raw
  | .listed attributes => .ok attributes

/-- The attributes of a block with the defaults of its kind. -/
def Spec.resolveWith (reader : Reader) (spec : Spec) (defaults : Attributes) :
    Except IllegalList Attributes :=
  (spec.resolve reader).map (merge · defaults)

end Attributes

end BlockTree
