import BlockTree.Render.Context

/-!
Tables: rows of cells with aligned columns, and warnings about irregular rows.

`Grid.messages` gives a warning for each row whose number of cells differs from the number of
columns.
-/

namespace BlockTree

/-- The style of a cell with an alignment, if there is one. -/
def cellStyle : Option Text → Text
  | none => []
  | some align => if align.isEmpty then [] else " style=\"text-align: " ++ align ++ "\""

/-- A cell: an opening tag with its style, the markup of its content, and a closing tag. -/
def renderCell (convert : Inline.Converter) (tag : Text) (align : Option Text) (cell : Text) :
    Text :=
  "<" ++ tag ++ cellStyle align ++ ">" ++ convert (.text cell) ++ "</" ++ tag ++ ">"

/-- The cells of a row. Cells beyond the alignments have none. -/
def renderCells (convert : Inline.Converter) (tag : Text) : List (Option Text) → List Text → Text
  | _, [] => []
  | [], cell :: row => renderCell convert tag none cell ++ renderCells convert tag [] row
  | align :: aligns, cell :: row =>
    renderCell convert tag align cell ++ renderCells convert tag aligns row

/-- A row of cells. -/
def renderRow (convert : Inline.Converter) (tag : Text) (aligns : List (Option Text))
    (row : List Text) : Text :=
  "<tr>\n" ++ renderCells convert tag aligns row ++ "\n</tr>\n"

/-- Rows of cells. -/
def renderRows (convert : Inline.Converter) (tag : Text) (aligns : List (Option Text))
    (rows : List (List Text)) : Text :=
  rows.flatMap (renderRow convert tag aligns)

namespace Grid

/-- The words for the alignments of the columns. -/
def alignWords (grid : Grid) : List (Option Text) :=
  grid.alignments.map fun align => align.map Alignment.word

/-- A column per alignment. -/
def columns (grid : Grid) : Text :=
  "<colgroup>\n" ++ (List.replicate grid.alignments.length "<col>\n".toList).flatten
    ++ "</colgroup>\n"

/-- The header row in a section of its own, if there is one. -/
def headSection (convert : Inline.Converter) (grid : Grid) : Text :=
  match grid.header with
  | none => []
  | some row =>
    "<thead>\n" ++ renderRows convert "th" grid.alignWords [row] ++ "</thead>\n"

/-- What follows the opening tag of a table. -/
def body (convert : Inline.Converter) (grid : Grid) : Text :=
  grid.columns ++ grid.headSection convert ++ renderRows convert "td" grid.alignWords grid.rows
    ++ "</table>\n"

/-- The body rows with their labels, numbered on from a number. -/
def labelRows (number : Nat) : List (List Text) → List (Text × List Text)
  | [] => []
  | row :: rest => ("body row " ++ Text.decimal number, row) :: labelRows (number + 1) rest

/-- All rows with their labels, the header row first. -/
def labelled (grid : Grid) : List (Text × List Text) :=
  (match grid.header with
    | none => []
    | some row => [("header row".toList, row)]) ++ labelRows 1 grid.rows

/-- The warning about a row with a label and a number of cells. -/
def rowWarning (line : Int) (columns : Nat) (label : Text) (cells : Nat) : Message where
  severity := .warning
  line := line
  text :=
    "table " ++ label ++ " has " ++ Text.decimal cells ++ " cells, expected "
      ++ Text.decimal columns

/-- A warning for each row that does not have one cell per column. -/
def messages (line : Int) (grid : Grid) : List Message :=
  let columns := grid.alignments.length
  (grid.labelled.filter fun labelled => labelled.2.length ≠ columns).map fun labelled =>
    rowWarning line columns labelled.1 labelled.2.length

end Grid

/-- A table with its warnings. The attributes go into the opening tag. -/
def Context.table (ctx : Context) (head : Head) (grid : Grid) : RenderM Rendered :=
  liftM ((ctx.decorate head [] "<table>\n").map fun opening =>
    (⟨opening ++ grid.body ctx.convert, grid.messages head.line⟩ : Rendered))

end BlockTree
