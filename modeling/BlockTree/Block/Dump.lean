import BlockTree.Block.Kind

/-!
Blocks as structured data, with every member of their kind.

Reading a dump gives the block again, if it holds no plugin. The form of attributes is a parameter.
-/

namespace BlockTree

/-- A list of texts as structured data. -/
def dumpTexts (texts : List Text) : Data :=
  .arr (texts.map Data.str)

/-- A text or null. -/
def dumpOptional : Option Text → Data
  | none => .null
  | some text => .str text

/-- Attributes as a mapping from names to lists of values. -/
def Attributes.toData (attributes : Attributes) : Data :=
  .obj (attributes.map fun entry => (entry.1, dumpTexts entry.2))

/-- The attributes that a block asks for, with a form for listed ones. -/
def Attributes.Spec.dump (form : Attributes → Data) : Attributes.Spec → Data
  | .absent => .null
  | .written raw => .str raw
  | .listed attributes => form attributes

/-- The members of a block of a kind. -/
def dumpMembers (form : Attributes → Data) (kind : BlockKind) (head : Head)
    (own : List (Text × Data)) : Data :=
  .obj (("attrs", head.attributes.dump form) :: ("lnb", .int head.line) :: ("kind", .str kind.word)
    :: own)

/-- The members of a table. -/
def Grid.dump (grid : Grid) : List (Text × Data) :=
  [("header", (grid.header.map dumpTexts).getD .null),
   ("rows", .arr (grid.rows.map dumpTexts)),
   ("alignments", .arr (grid.alignments.map fun align => dumpOptional (align.map Alignment.word)))]

mutual

/-- A block as structured data, with a form for its attributes. A plugin shows the label of its
handler. -/
def Block.dumpWith (form : Attributes → Data) : Block → Data
  | .para head lines => dumpMembers form .para head [("lines", dumpTexts lines)]
  | .heading head level content =>
    dumpMembers form .heading head [("level", .int level), ("content", .str content)]
  | .quote head blocks => dumpMembers form .quote head [("blocks", .arr (dumpBlocks form blocks))]
  | .code head lines language =>
    dumpMembers form .code head [("lines", dumpTexts lines), ("language", dumpOptional language)]
  | .ruler head mark => dumpMembers form .ruler head [("type", .str mark.word)]
  | .list head kind blocks =>
    dumpMembers form .list head
      [("type", .str kind.word), ("blocks", .arr (dumpBlocks form blocks))]
  | .item head kind blocks spaced =>
    dumpMembers form .item head
      [("type", .str kind.word), ("blocks", .arr (dumpBlocks form blocks)),
       ("spaced", .bool spaced)]
  | .table head grid => dumpMembers form .table head grid.dump
  | .html head lines => dumpMembers form .html head [("html", dumpTexts lines)]
  | .htmlOther head lines => dumpMembers form .htmlOther head [("html", dumpTexts lines)]
  | .footnotes head notes =>
    dumpMembers form .footnotes head [("blocks", .arr (dumpNotes form notes))]
  | .attributeList head content => dumpMembers form .attributeList head [("content", .str content)]
  | .linkTarget head id url title =>
    dumpMembers form .linkTarget head
      [("id", dumpOptional id), ("url", dumpOptional url), ("title", dumpOptional title)]
  | .plugin head lines handler =>
    dumpMembers form .plugin head [("lines", dumpTexts lines), ("handler", .str handler.label)]
  | .foreign typeName => .str typeName

/-- Blocks as structured data. -/
def dumpBlocks (form : Attributes → Data) : List Block → List Data
  | [] => []
  | block :: rest => block.dumpWith form :: dumpBlocks form rest

/-- A note as structured data. -/
def Note.dumpWith (form : Attributes → Data) : Note → Data
  | .mk id number blocks =>
    .obj [("id", dumpOptional id), ("number", .int number),
      ("blocks", .arr (dumpBlocks form blocks))]

/-- Notes as structured data. -/
def dumpNotes (form : Attributes → Data) : List Note → List Data
  | [] => []
  | note :: rest => note.dumpWith form :: dumpNotes form rest

end

/-- A document as structured data, with a form for attributes. -/
def dumpDocument (form : Attributes → Data) (blocks : List Block) : Data :=
  .obj [("blocks", .arr (dumpBlocks form blocks))]

/-- A block as structured data. -/
def Block.dump (block : Block) : Data :=
  block.dumpWith Attributes.toData

end BlockTree
