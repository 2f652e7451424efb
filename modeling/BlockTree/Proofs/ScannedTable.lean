import BlockTree.Proofs.AttributeEffect
import BlockTree.Proofs.Messages

/-!
Tables read back from their markup.

* `scanTable`: reads markup from left to right, one character at a time, and notes the columns and
  the rows with their cells; tags out of place are refused. `TableScan.run_append` cuts a scan
  anywhere, `run_tagged` and `run_text` say what a tag and the text between tags do to it.
* `ScannedItem.irregularRows`: the warnings that the scanned rows ask for, from nothing but the
  scan.
* `run_cell`, `run_row`, `run_columns`, `run_opening`: the scan of each part of a table.
* `renderBlock_table_scanned`: the scan of a table gives its columns and rows back, and its messages
  are the warnings that the scan asks for.
-/

namespace BlockTree

open Inline (Converter)

/-! ### Scanning -/

/-- A cell as it is scanned: its element, the alignment that its style names, and its content. -/
structure ScannedCell where
  name : Text
  alignment : Option Text
  content : Text
  deriving DecidableEq, Repr

/-- A column, or a row of cells that stands in the head of the table or not. -/
inductive ScannedItem where
  | column
  | row (inHead : Bool) (cells : List ScannedCell)
  deriving DecidableEq, Repr

/-- Where a scan stands: between the rows, in a row, or in a cell of a row. -/
inductive ScanPlace where
  | between
  | row (cells : List ScannedCell)
  | cell (cells : List ScannedCell) (current : ScannedCell)
  deriving DecidableEq, Repr

/-- What a scan has noted so far, and the part that it has read of a tag that is not complete. -/
structure TableScan where
  items : List ScannedItem := []
  inHead : Bool := false
  place : ScanPlace := .between
  tag? : Option Text := none
  deriving DecidableEq, Repr

/-- Text belongs to the cell that is open, if one is. -/
def ScanPlace.read (text : Text) : ScanPlace → ScanPlace
  | .cell cells current => .cell cells { current with content := current.content ++ text }
  | place => place

/-- The alignment that stands behind the name in the tag of a cell, where nothing else may stand. -/
def styleAlignment? (rest : Text) : Option (Option Text) :=
  if rest = [] then some none
  else
    match (rest.after? " style=\"text-align: ").bind (Text.cut? '"') with
    | some (word, []) => some (some word)
    | _ => none

namespace TableScan

/-- Takes a complete tag into account, unless it is out of place. -/
def enter (scan : TableScan) (tag : Text) : Option TableScan :=
  let name := tagName tag
  match scan.place with
  | .between =>
    if ["table".toList, "/table", "colgroup", "/colgroup"].contains name then some scan
    else if name = "col".toList then some { scan with items := scan.items ++ [.column] }
    else if name = "thead".toList then some { scan with inHead := true }
    else if name = "/thead".toList then some { scan with inHead := false }
    else if name = "tr".toList then some { scan with place := .row [] }
    else none
  | .row cells =>
    if name = "/tr".toList then
      some { scan with items := scan.items ++ [.row scan.inHead cells], place := .between }
    else if ["th".toList, "td"].contains name then
      (styleAlignment? (tag.drop name.length)).map fun alignment =>
        { scan with place := .cell cells ⟨name, alignment, []⟩ }
    else none
  | .cell cells current =>
    if tag = '/' :: current.name then some { scan with place := .row (cells ++ [current]) }
    else none

/-- Reads a character. -/
def step (scan : TableScan) (c : Char) : Option TableScan :=
  match scan.tag? with
  | some tag =>
    if c = '>' then { scan with tag? := none }.enter tag
    else some { scan with tag? := some (tag ++ [c]) }
  | none =>
    if c = '<' then some { scan with tag? := some [] }
    else some { scan with place := scan.place.read [c] }

/-- Reads a text. -/
def run (scan : TableScan) (text : Text) : Option TableScan :=
  text.foldlM step scan

end TableScan

/-- **The columns and rows of a table**, read from its markup. -/
def scanTable (html : Text) : Option (List ScannedItem) :=
  match TableScan.run {} html with
  | some ⟨items, false, .between, none⟩ => some items
  | _ => none

namespace ScannedItem

/-- The warning about a row with this label, if it has not as many cells as there are columns. -/
def rowWarning (line : Int) (columns : Nat) (label : Text) (cells : List ScannedCell) :
    List Message :=
  if cells.length = columns then []
  else
    [⟨.warning, line, "table " ++ label ++ " has " ++ Text.decimal cells.length
      ++ " cells, expected " ++ Text.decimal columns⟩]

/-- The warnings about rows, in their order; the rows of the body are numbered on from a number. -/
def rowWarnings (line : Int) (columns : Nat) : Nat → List ScannedItem → List Message
  | _, [] => []
  | number, .column :: rest => rowWarnings line columns number rest
  | number, .row true cells :: rest =>
    rowWarning line columns "header row" cells ++ rowWarnings line columns number rest
  | number, .row false cells :: rest =>
    rowWarning line columns ("body row " ++ Text.decimal number) cells
      ++ rowWarnings line columns (number + 1) rest

/-- **The irregular rows of a scanned table**: a warning for each row that has not as many cells as
there are columns. -/
def irregularRows (line : Int) (items : List ScannedItem) : List Message :=
  rowWarnings line (items.count .column) 1 items

end ScannedItem

/-- The cells of a row as they should be scanned: converted, and each with the alignment of its
column, if there is such a column and it has one. -/
def scannedCells (convert : Converter) (alignments : List (Option Alignment)) (name : Text)
    (row : List Text) : List ScannedCell :=
  row.mapIdx fun index cell =>
    ⟨name, alignments[index]?.join.map Alignment.word, convert (.text cell)⟩

/-- **A table as it should be scanned**: a column per alignment, the header row in the head of the
table, if there is one, and the rows of the body. -/
def Grid.scanned (convert : Converter) (grid : Grid) : List ScannedItem :=
  List.replicate grid.alignments.length .column
    ++ (grid.header.toList.map fun row =>
      .row true (scannedCells convert grid.alignments "th" row))
    ++ grid.rows.map fun row => .row false (scannedCells convert grid.alignments "td" row)

/-! ### The scan of tags and text -/

lemma ScanPlace.read_nil (place : ScanPlace) : place.read [] = place := by
  cases place <;> simp [read]

lemma ScanPlace.read_read (place : ScanPlace) (text more : Text) :
    (place.read text).read more = place.read (text ++ more) := by
  cases place <;> simp [read]

namespace TableScan

lemma run_append (scan : TableScan) (text more : Text) :
    scan.run (text ++ more) = (scan.run text).bind (run · more) :=
  List.foldlM_append

lemma run_cons (scan : TableScan) (c : Char) (text : Text) :
    scan.run (c :: text) = (scan.step c).bind (run · text) :=
  List.foldlM_cons

section

variable {items : List ScannedItem} {inHead : Bool} {place : ScanPlace}

/-- Text without tags goes to the cell that is open. -/
lemma run_text {text : Text} (h : '<' ∉ text) :
    run ⟨items, inHead, place, none⟩ text = some ⟨items, inHead, place.read text, none⟩ := by
  induction text generalizing place with
  | nil => rw [ScanPlace.read_nil]; rfl
  | cons c text ih =>
      obtain ⟨hc, htext⟩ := not_or.mp (mt List.mem_cons.mpr h)
      have hstep : step ⟨items, inHead, place, none⟩ c
          = some ⟨items, inHead, place.read [c], none⟩ := if_neg (Ne.symm hc)
      rw [run_cons, hstep, Option.bind_some, ih htext, ScanPlace.read_read, List.singleton_append]

/-- A tag that is read to its end is taken into account. -/
lemma run_tag {tag : Text} (h : '>' ∉ tag) (front after : Text) :
    run ⟨items, inHead, place, some front⟩ (tag ++ '>' :: after)
      = (enter ⟨items, inHead, place, none⟩ (front ++ tag)).bind (run · after) := by
  induction tag generalizing front with
  | nil =>
      have hstep : step ⟨items, inHead, place, some front⟩ '>'
          = enter ⟨items, inHead, place, none⟩ front := rfl
      rw [List.nil_append, run_cons, hstep, List.append_nil]
  | cons c tag ih =>
      obtain ⟨hc, htag⟩ := not_or.mp (mt List.mem_cons.mpr h)
      have hstep : step ⟨items, inHead, place, some front⟩ c
          = some ⟨items, inHead, place, some (front ++ [c])⟩ := if_neg (Ne.symm hc)
      rw [List.cons_append, run_cons, hstep, Option.bind_some, ih htag, List.append_assoc,
        List.singleton_append]

lemma run_tagged {tag : Text} (h : '>' ∉ tag) (after : Text) :
    run ⟨items, inHead, place, none⟩ (tagged tag after)
      = (enter ⟨items, inHead, place, none⟩ tag).bind (run · after) := by
  have hstep : step ⟨items, inHead, place, none⟩ '<' = some ⟨items, inHead, place, some []⟩ := rfl
  rw [tagged, run_cons, hstep, Option.bind_some, run_tag h, List.nil_append]

/-! ### The scan of a row -/

section

variable {convert : Converter} {name : Text} (hname : name ∈ ["th".toList, "td".toList])
include hname

/-- The opening tag of a cell, with the style that an alignment asks for. -/
lemma enter_cell (alignment : Option Alignment) (cells : List ScannedCell) :
    enter ⟨items, inHead, .row cells, none⟩ (name ++ cellStyle (alignment.map Alignment.word))
      = some ⟨items, inHead, .cell cells ⟨name, alignment.map Alignment.word, []⟩, none⟩ := by
  revert name
  rw [List.forall_mem_cons, List.forall_mem_singleton]
  rcases alignment with _ | _ | _ | _ <;> exact ⟨rfl, rfl⟩

lemma close_notMem_cell (alignment : Option Alignment) :
    '>' ∉ name ++ cellStyle (alignment.map Alignment.word) ∧ '>' ∉ '/' :: name := by
  revert name
  rw [List.forall_mem_cons, List.forall_mem_singleton]
  rcases alignment with _ | _ | _ | _ <;> decide

/-- **A cell** is scanned as it was written. -/
lemma run_cell (alignment : Option Alignment) (cells : List ScannedCell) {cell : Text}
    (hcell : '<' ∉ convert (.text cell)) :
    run ⟨items, inHead, .row cells, none⟩
        (renderCell convert name (alignment.map Alignment.word) cell)
      = some ⟨items, inHead,
          .row (cells ++ [⟨name, alignment.map Alignment.word, convert (.text cell)⟩]), none⟩ := by
  obtain ⟨hopening, hclosing⟩ := close_notMem_cell hname alignment
  have henter : ∀ current : ScannedCell, enter ⟨items, inHead, .cell cells current, none⟩
      ('/' :: current.name) = some ⟨items, inHead, .row (cells ++ [current]), none⟩ :=
    fun current => if_pos rfl
  rw [renderCell_eq, run_tagged hopening, enter_cell hname, Option.bind_some, run_append,
    run_text hcell, Option.bind_some, run_tagged hclosing, ScanPlace.read, List.nil_append, henter]
  rfl

/-- **The cells of a row** are scanned one by one, each with its own alignment. -/
lemma run_cells {row : List Text} (hrow : ∀ cell ∈ row, '<' ∉ convert (.text cell))
    (alignments : List (Option Alignment)) (cells : List ScannedCell) :
    run ⟨items, inHead, .row cells, none⟩
        (renderCells convert name (alignments.map fun align => align.map Alignment.word) row)
      = some ⟨items, inHead, .row (cells ++ scannedCells convert alignments name row), none⟩ := by
  induction row generalizing alignments cells with
  | nil => rw [renderCells, scannedCells, List.mapIdx_nil, List.append_nil]; rfl
  | cons cell row ih =>
      obtain ⟨hcell, hrow⟩ := List.forall_mem_cons.mp hrow
      cases alignments with
      | nil =>
          have hfirst : run ⟨items, inHead, .row cells, none⟩ (renderCell convert name none cell)
              = some ⟨items, inHead, .row (cells ++ [⟨name, none, convert (.text cell)⟩]), none⟩ :=
            run_cell hname none cells hcell
          have hrest := ih hrow [] (cells ++ [⟨name, none, convert (.text cell)⟩])
          rw [List.map_nil] at hrest
          rw [List.map_nil, renderCells, run_append, hfirst, Option.bind_some]
          refine hrest.trans ?_
          rw [List.append_assoc, scannedCells, scannedCells, List.mapIdx_cons]
          rfl
      | cons alignment alignments =>
          rw [List.map_cons, renderCells, run_append, run_cell hname alignment cells hcell,
            Option.bind_some, ih hrow, List.append_assoc, scannedCells, scannedCells,
            List.mapIdx_cons]
          rfl

/-- **A row** is scanned with all its cells. -/
lemma run_row {row : List Text} (hrow : ∀ cell ∈ row, '<' ∉ convert (.text cell))
    (alignments : List (Option Alignment)) :
    run ⟨items, inHead, .between, none⟩
        (renderRow convert name (alignments.map fun align => align.map Alignment.word) row)
      = some ⟨items ++ [.row inHead (scannedCells convert alignments name row)], inHead, .between,
          none⟩ := by
  have hopening : run ⟨items, inHead, .between, none⟩ "<tr>\n"
      = some ⟨items, inHead, .row [], none⟩ := rfl
  unfold renderRow
  rw [run_append, run_append, hopening, Option.bind_some, run_cells hname hrow,
    Option.bind_some, List.nil_append]
  rfl

/-- **Rows** are scanned one by one. -/
lemma run_rows {rows : List (List Text)}
    (hrows : ∀ row ∈ rows, ∀ cell ∈ row, '<' ∉ convert (.text cell))
    (alignments : List (Option Alignment)) :
    run ⟨items, inHead, .between, none⟩
        (renderRows convert name (alignments.map fun align => align.map Alignment.word) rows)
      = some ⟨items ++ rows.map fun row =>
          .row inHead (scannedCells convert alignments name row), inHead, .between, none⟩ := by
  rw [renderRows]
  induction rows generalizing items with
  | nil => rw [List.map_nil, List.append_nil]; rfl
  | cons row rows ih =>
      obtain ⟨hrow, hrows⟩ := List.forall_mem_cons.mp hrows
      rw [List.flatMap_cons, run_append, run_row hname hrow, Option.bind_some, ih hrows,
        List.append_assoc, List.map_cons, List.singleton_append]

end

/-! ### The scan of a table -/

/-- The columns are scanned one by one. -/
lemma run_replicate_column (n : Nat) :
    run ⟨items, inHead, .between, none⟩ (List.replicate n "<col>\n".toList).flatten
      = some ⟨items ++ List.replicate n .column, inHead, .between, none⟩ := by
  have hcolumn : ∀ items, run ⟨items, inHead, .between, none⟩ "<col>\n"
      = some ⟨items ++ [.column], inHead, .between, none⟩ := fun items => rfl
  induction n generalizing items with
  | zero =>
      rw [List.replicate_zero, List.replicate_zero, List.append_nil]
      rfl
  | succ n ih =>
      rw [List.replicate_succ, List.flatten_cons, run_append, hcolumn, Option.bind_some, ih,
        List.append_assoc, List.singleton_append, ← List.replicate_succ]

/-- **The columns** are scanned as one for each alignment. -/
lemma run_columns (grid : Grid) :
    run ⟨items, inHead, .between, none⟩ grid.columns
      = some ⟨items ++ List.replicate grid.alignments.length .column, inHead, .between, none⟩ := by
  have hopening : run ⟨items, inHead, .between, none⟩ "<colgroup>\n"
      = some ⟨items, inHead, .between, none⟩ := rfl
  have hclosing : ∀ items, run ⟨items, inHead, .between, none⟩ "</colgroup>\n"
      = some ⟨items, inHead, .between, none⟩ := fun items => rfl
  unfold Grid.columns
  rw [run_append, run_append, hopening, Option.bind_some, run_replicate_column,
    Option.bind_some, hclosing]

/-- **The header row** is scanned as a row in the head of the table. -/
lemma run_headSection {convert : Converter} {grid : Grid}
    (hheader : ∀ cell ∈ grid.header.getD [], '<' ∉ convert (.text cell)) :
    run ⟨items, false, .between, none⟩ (grid.headSection convert)
      = some ⟨items ++ grid.header.toList.map fun row =>
          .row true (scannedCells convert grid.alignments "th" row), false, .between, none⟩ := by
  rw [Grid.headSection]
  cases hrow : grid.header with
  | none => rw [Option.toList_none, List.map_nil, List.append_nil]; rfl
  | some row =>
      have hcells : ∀ other ∈ [row], ∀ cell ∈ other, '<' ∉ convert (.text cell) :=
        List.forall_mem_singleton.mpr (by rwa [hrow] at hheader)
      have hopening : run ⟨items, false, .between, none⟩ "<thead>\n"
          = some ⟨items, true, .between, none⟩ := rfl
      rw [Grid.alignWords, run_append, run_append, hopening, Option.bind_some,
        run_rows List.mem_cons_self hcells, Option.bind_some]
      rfl

/-- **The opening tag of a table** asks for nothing, even if its attributes hold ends of tags. -/
lemma run_opening {attributes : Attributes} (h : '<' ∉ Attributes.serialize attributes) :
    run {} (tagged ("table" ++ Attributes.inTag attributes) "\n") = some {} := by
  rw [Attributes.inTag]
  split
  · rfl
  · have hend : '>' ∈ Attributes.serialize attributes ++ '>' :: "\n".toList :=
      List.mem_append_right _ List.mem_cons_self
    -- The scan ends the tag at its first `>`, even in a value; what follows is text between rows.
    obtain ⟨before, after, hsplit, hbefore⟩ := List.eq_append_cons_of_mem hend
    have hafter : '<' ∉ after := by
      intro hmem
      have hwhole : '<' ∈ Attributes.serialize attributes ++ '>' :: "\n".toList :=
        hsplit ▸ List.mem_append_right _ (List.mem_cons_of_mem _ hmem)
      rcases List.mem_append.mp hwhole with hmem | hmem
      · exact h hmem
      · exact absurd hmem (by decide)
    have htag : tagged ("table" ++ ' ' :: Attributes.serialize attributes) "\n"
        = tagged ("table ".toList ++ before) after := by
      have hfront : "table".toList ++ ' ' :: Attributes.serialize attributes ++ '>' :: "\n".toList
          = "table ".toList ++ (Attributes.serialize attributes ++ '>' :: "\n".toList) := by simp
      rw [tagged, tagged, hfront, hsplit, List.append_assoc]
    have hname : '>' ∉ "table ".toList ++ before :=
      fun hmem => (List.mem_append.mp hmem).elim (by decide) hbefore
    have henter : enter {} ("table ".toList ++ before) = some {} := rfl
    rw [htag, run_tagged hname, henter, Option.bind_some, run_text hafter]
    rfl

end

end TableScan

/-- **The scan of a table** gives its columns and rows, if neither its attributes nor its cells hold
the start of a tag. -/
lemma scanTable_eq {convert : Converter} {grid : Grid} {attributes : Attributes}
    (hattributes : '<' ∉ Attributes.serialize attributes)
    (hcells : ∀ cell ∈ grid.cells, '<' ∉ convert (.text cell)) :
    scanTable (tagged ("table" ++ Attributes.inTag attributes) "\n" ++ grid.body convert)
      = some (grid.scanned convert) := by
  obtain ⟨hheader, hrows⟩ := List.forall_mem_append.mp hcells
  rw [List.forall_mem_flatten] at hrows
  have hbody : TableScan.run {} (grid.body convert)
      = some ⟨grid.scanned convert, false, .between, none⟩ := by
    unfold Grid.body
    rw [TableScan.run_append, TableScan.run_append, TableScan.run_append,
      TableScan.run_columns, Option.bind_some, TableScan.run_headSection hheader, Option.bind_some,
      Grid.alignWords, TableScan.run_rows (by simp) hrows, Option.bind_some]
    rfl
  rw [scanTable, TableScan.run_append, TableScan.run_opening hattributes, Option.bind_some, hbody]

/-! ### The warnings -/

namespace ScannedItem

variable (line : Int)

lemma rowWarnings_columns_append (columns : Nat) (number n : Nat) (rest : List ScannedItem) :
    rowWarnings line columns number (List.replicate n .column ++ rest)
      = rowWarnings line columns number rest := by
  induction n with
  | zero => rfl
  | succ n ih => rw [List.replicate_succ, List.cons_append, rowWarnings, ih]

lemma rowWarning_scannedCells (convert : Converter) (grid : Grid) (name label : Text)
    (row : List Text) :
    rowWarning line grid.alignments.length label (scannedCells convert grid.alignments name row)
      = grid.rowMessage line label row := by
  rw [rowWarning, scannedCells, List.length_mapIdx, Grid.rowMessage]

/-- The rows of the body are numbered as they are scanned. -/
lemma rowWarnings_body (convert : Converter) (grid : Grid) (rows : List (List Text))
    (number : Nat) :
    rowWarnings line grid.alignments.length number
        (rows.map fun row => .row false (scannedCells convert grid.alignments "td" row))
      = (rows.zipIdx number).flatMap fun entry =>
          grid.rowMessage line ("body row " ++ Text.decimal entry.2) entry.1 := by
  induction rows generalizing number with
  | nil => rfl
  | cons row rows ih =>
      rw [List.map_cons, rowWarnings, rowWarning_scannedCells, ih, List.zipIdx_cons,
        List.flatMap_cons]

lemma count_column_scanned (convert : Converter) (grid : Grid) :
    (grid.scanned convert).count .column = grid.alignments.length := by
  have hrows : ∀ (inHead : Bool) (name : Text) (rows : List (List Text)),
      (rows.map fun cells => row inHead (scannedCells convert grid.alignments name cells)).count
        column = 0 := by
    intro inHead name rows
    rw [List.count_eq_zero]
    simp
  rw [Grid.scanned, List.count_append, List.count_append, List.count_replicate_self, hrows, hrows]
  rfl

/-- **The messages of a table** are the warnings that its scan asks for. -/
lemma irregularRows_scanned (convert : Converter) (grid : Grid) :
    irregularRows line (grid.scanned convert) = grid.messages line := by
  rw [irregularRows, count_column_scanned, Grid.scanned, List.append_assoc,
    rowWarnings_columns_append, Grid.messages_eq_irregular, Grid.irregular]
  cases grid.header with
  | none => exact rowWarnings_body line convert grid grid.rows 1
  | some row =>
      rw [Option.toList_some, List.map_singleton, List.singleton_append, rowWarnings,
        rowWarning_scannedCells, rowWarnings_body]
      rfl

end ScannedItem

/-- **A table agrees with its messages.** For a table whose attributes are absent or accepted and
written without `<`, and a converter that puts no `<` into its cells, the scan of the markup gives
one column per alignment, the header row in the head of the table, if there is one, and the rows of
the body, each with its own converted cells, none of them padded or dropped, and with the alignment
of a cell exactly where there is one. The messages are the warnings that this scan asks for. -/
theorem renderBlock_table_scanned (ctx : Context) (head : Head) (grid : Grid)
    (attributes : Attributes)
    (hresolve : head.attributes.resolve ctx.readAttributes = .ok attributes)
    (hattributes : '<' ∉ Attributes.serialize attributes)
    (hcells : ∀ cell ∈ grid.cells, '<' ∉ ctx.convert (.text cell)) :
    ∃ html messages, Settles (renderBlock ctx (.table head grid)) (.ok ⟨.text html, messages⟩)
      ∧ scanTable html = some (grid.scanned ctx.convert)
      ∧ messages = ScannedItem.irregularRows head.line (grid.scanned ctx.convert) := by
  have hname : IsElementName "table" := isElementName_of_mem _ (by decide)
  have hopening : ctx.decorate head [] "<table>\n"
      = .ok (tagged ("table" ++ Attributes.inTag attributes) "\n") :=
    Context.decorate_of_resolves hname hresolve "\n"
  refine ⟨tagged ("table" ++ Attributes.inTag attributes) "\n" ++ grid.body ctx.convert,
    grid.messages head.line, fun s => ?_, scanTable_eq hattributes hcells,
    (ScannedItem.irregularRows_scanned head.line ctx.convert grid).symm⟩
  rw [renderBlock, Context.table, hopening]
  rfl

/-- A short header row, a long row and an empty one, behind a tag whose attribute holds its end. -/
theorem renderBlock_table_scanned_ragged :
    ∃ html messages,
      Settles (renderBlock {} (.table { line := 4, attributes := .written "title=\"a>b\"" }
          ⟨some ["a"], [["1", "2", "x > y"], []], [none, some .center]⟩))
        (.ok ⟨.text html, messages⟩)
      ∧ scanTable html = some [.column, .column, .row true [⟨"th", none, "a"⟩],
          .row false [⟨"td", none, "1"⟩, ⟨"td", some "center".toList, "2"⟩,
            ⟨"td", none, "x &gt; y"⟩],
          .row false []]
      ∧ messages = [⟨.warning, 4, "table header row has 1 cells, expected 2"⟩,
          ⟨.warning, 4, "table body row 1 has 3 cells, expected 2"⟩,
          ⟨.warning, 4, "table body row 2 has 0 cells, expected 2"⟩] := by
  obtain ⟨html, messages, hsettles, hscan, hmessages⟩ :=
    renderBlock_table_scanned {} { line := 4, attributes := .written "title=\"a>b\"" }
      ⟨some ["a"], [["1", "2", "x > y"], []], [none, some .center]⟩ [("title", ["a>b"])]
      (by decide +kernel) (by decide +kernel) (by decide +kernel)
  exact ⟨html, messages, hsettles, hscan.trans (by decide +kernel),
    hmessages.trans (by decide +kernel)⟩

end BlockTree
