import BlockTree.Handler

/-!
The tree of blocks that a document consists of.

* `Block`: the kinds of blocks; containers hold lists of blocks, a footnote list holds notes;
* `Head`: what most blocks carry besides their content;
* `Block.foreign`: a value among the blocks that is no block.
-/

namespace BlockTree

/-- The attributes that a block asks for, and its line in the source. -/
structure Head where
  attributes : Attributes.Spec := .absent
  line : Int := 0
  deriving DecidableEq, Repr

/-- The weight of a ruler. -/
inductive RulerMark where
  | thin
  | medium
  | thick
  deriving DecidableEq, Repr

/-- Bulleted and numbered lists. -/
inductive ListKind where
  | bulleted
  | numbered
  deriving DecidableEq, Repr

/-- The alignment of a column. -/
inductive Alignment where
  | left
  | center
  | right
  deriving DecidableEq, Repr

/-- The rows of a table, with the alignment of each column. -/
structure Grid where
  header : Option (List Text)
  rows : List (List Text)
  alignments : List (Option Alignment)
  deriving DecidableEq, Repr

mutual

/-- A block of a document. -/
inductive Block where
  | para (head : Head) (lines : List Text)
  | heading (head : Head) (level : Int) (content : Text)
  | quote (head : Head) (blocks : List Block)
  | code (head : Head) (lines : List Text) (language : Option Text)
  | ruler (head : Head) (mark : RulerMark)
  | list (head : Head) (kind : ListKind) (blocks : List Block)
  | item (head : Head) (kind : ListKind) (blocks : List Block) (spaced : Bool)
  | table (head : Head) (grid : Grid)
  | html (head : Head) (lines : List Text)
  | htmlOther (head : Head) (lines : List Text)
  | footnotes (head : Head) (notes : List Note)
  | attributeList (head : Head) (content : Text)
  | linkTarget (head : Head) (id url title : Option Text)
  | plugin (head : Head) (lines : List Text) (handler : Handler)
  | foreign (typeName : Text)

/-- A footnote: its identifier, its number and its blocks. -/
inductive Note where
  | mk (id : Option Text) (number : Int) (blocks : List Block)

end

/-- The identifier of a note. -/
def Note.id : Note → Option Text
  | .mk id _ _ => id

/-- The number of a note. -/
def Note.number : Note → Int
  | .mk _ number _ => number

/-- The blocks of a note. -/
def Note.blocks : Note → List Block
  | .mk _ _ blocks => blocks

/-! ### Words -/

/-- The character that a ruler is written with. -/
def RulerMark.word : RulerMark → Text
  | .thin => "-"
  | .medium => "_"
  | .thick => "*"

/-- The class of a ruler. -/
def RulerMark.className : RulerMark → Text
  | .thin => "thin"
  | .medium => "medium"
  | .thick => "thick"

/-- The element of a list. -/
def ListKind.word : ListKind → Text
  | .bulleted => "ul"
  | .numbered => "ol"

/-- The word for an alignment. -/
def Alignment.word : Alignment → Text
  | .left => "left"
  | .center => "center"
  | .right => "right"

end BlockTree
