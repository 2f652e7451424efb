import BlockTree.Block.Kind
import BlockTree.Handler.Registry
import BlockTree.Schema.Scalar

/-!
Reading blocks from structured data.

* `block`: a mapping whose `kind` says which members it needs; members that are not needed are
  ignored;
* `blockItems`: every block of a list is read, whatever becomes of the others;
* `document`: the blocks of a document.

The attributes and the line of a block are read before its own members.
-/

namespace BlockTree.Schema

/-! ### Heads -/

/-- The attributes that a block asks for. A value that is neither null nor a text is read as a
mapping, and both readings are reported if that fails. -/
def attributesSpec : Data → Check Attributes.Spec
  | .null => .ok .absent
  | .str raw => .ok (.written raw)
  | value =>
    match (Attributes.Spec.listed <$> mapping (list text) value).within
        (.name "dict[str,list[str]]") with
    | .invalid issues => .invalid (⟨[.name "str"], .notText⟩ :: issues)
    | other => other

/-- What most blocks carry. -/
def head (members : List (Text × Data)) : Check Head :=
  Head.mk <$> Check.default members "attrs" .absent attributesSpec
    <*> Check.default members "lnb" 0 integer

/-! ### Members -/

/-- A list of texts, empty if it is not there. -/
def textLines (members : List (Text × Data)) (name : Text) : Check (List Text) :=
  Check.default members name [] (list text)

/-- A text, empty if it is not there. -/
def textOrEmpty (members : List (Text × Data)) (name : Text) : Check Text :=
  Check.default members name [] text

/-- A text, or null if it is not there. -/
def textOrNone (members : List (Text × Data)) (name : Text) : Check (Option Text) :=
  Check.default members name none (optional text)

/-- A list kind, bulleted if it is not there. -/
def listKind (members : List (Text × Data)) : Check ListKind :=
  Check.default members "type" .bulleted (oneOf ListKind.word [.bulleted, .numbered])

/-- The mark of a ruler, thin if it is not there. -/
def rulerMark (members : List (Text × Data)) : Check RulerMark :=
  Check.default members "type" .thin (oneOf RulerMark.word [.thin, .medium, .thick])

/-- The rows and columns of a table. -/
def grid (members : List (Text × Data)) : Check Grid :=
  Grid.mk <$> Check.default members "header" none (optional (list text))
    <*> Check.default members "rows" [] (list (list text))
    <*> Check.default members "alignments" []
      (list (optional (oneOf Alignment.word [.left, .center, .right])))

/-- The kind of the failures of assertions. -/
def assertionKind : Text := "AssertionError"

/-- The violation that a failure on the way to a handler is reported as: a bad value is one, and so is
an assertion that fails. -/
def handlerViolation? : Cause → Option Violation
  | .badValue detail => some (.badHandler detail)
  | .unusual kind detail => if kind = assertionKind then some (.failedAssertion detail) else none
  | _ => none

/-- The handler that a value refers to. A failure on the way that is no violation breaks the check
off. -/
def handler (registry : Registry) (value : Data) : Check Handler :=
  match registry.resolve value with
  | .ok found => .ok found
  | .error fault =>
    match handlerViolation? fault.toCause with
    | some violation => .fail violation
    | none => .broken fault.toCause

/-! ### Blocks -/

/-- The kind of a block, from its tag. -/
def kindOf (tag : Data) : Check BlockKind :=
  match tag with
  | .str word =>
    match BlockKind.ofWord? word with
    | some kind => .ok kind
    | none => .fail (.unknownTag word)
  | other => .fail (.unknownTag other.plain)

/-- A block of a kind without children. -/
def leafBlock (registry : Registry) (kind : BlockKind) (members : List (Text × Data)) :
    Check Block :=
  match kind with
  | .heading =>
    Block.heading <$> head members <*> Check.required members "level" (integerBetween 1 6)
      <*> textOrEmpty members "content"
  | .code =>
    Block.code <$> head members <*> textLines members "lines" <*> textOrNone members "language"
  | .ruler => Block.ruler <$> head members <*> rulerMark members
  | .table => Block.table <$> head members <*> grid members
  | .html => Block.html <$> head members <*> textLines members "html"
  | .htmlOther => Block.htmlOther <$> head members <*> textLines members "html"
  | .attributeList => Block.attributeList <$> head members <*> textOrEmpty members "content"
  | .linkTarget =>
    Block.linkTarget <$> head members <*> textOrNone members "id" <*> textOrNone members "url"
      <*> textOrNone members "title"
  | .plugin =>
    Block.plugin <$> head members <*> textLines members "lines"
      <*> Check.required members "handler" (handler registry)
  | _ => Block.para <$> head members <*> textLines members "lines"

mutual

/-- A block. -/
def block (registry : Registry) : Data → Check Block
  | .obj members => taggedBlock registry members
  | .mixed members _ => taggedBlock registry members
  | _ => .fail .notBlock

/-- A block, from members that tell its kind. -/
def taggedBlock (registry : Registry) (members : List (Text × Data)) : Check Block :=
  match Entries.find? "kind" members with
  | none => .fail .noTag
  | some tag =>
    match kindOf tag with
    | .ok kind => (blockOf registry kind members).within (.name kind.word)
    | .invalid issues => .invalid issues
    | .broken cause => .broken cause

/-- A block of a kind, from its members. -/
def blockOf (registry : Registry) (kind : BlockKind) (members : List (Text × Data)) : Check Block :=
  match kind with
  | .quote => Block.quote <$> head members <*> blocksIn registry members
  | .list => Block.list <$> head members <*> listKind members <*> blocksIn registry members
  | .item =>
    Block.item <$> head members <*> listKind members <*> blocksIn registry members
      <*> Check.default members "spaced" true boolean
  | .footnotes => Block.footnotes <$> head members <*> notesIn registry members
  | kind => leafBlock registry kind members

/-- The child blocks among some members; none if they are not there. -/
def blocksIn (registry : Registry) : List (Text × Data) → Check (List Block)
  | [] => .ok []
  | (name, value) :: rest =>
    if name = "blocks" then (blockList registry value).within (.name "blocks")
    else blocksIn registry rest

/-- A list of blocks. -/
def blockList (registry : Registry) : Data → Check (List Block)
  | .arr values => blockItems registry 0 values
  | _ => .fail .notList

/-- The blocks of a list from an index on. -/
def blockItems (registry : Registry) (index : Nat) : List Data → Check (List Block)
  | [] => .ok []
  | value :: rest =>
    List.cons <$> (block registry value).within (.index index)
      <*> blockItems registry (index + 1) rest

/-- The notes among some members; none if they are not there. -/
def notesIn (registry : Registry) : List (Text × Data) → Check (List Note)
  | [] => .ok []
  | (name, value) :: rest =>
    if name = "blocks" then (noteList registry value).within (.name "blocks")
    else notesIn registry rest

/-- A list of notes. -/
def noteList (registry : Registry) : Data → Check (List Note)
  | .arr values => noteItems registry 0 values
  | _ => .fail .notList

/-- The notes of a list from an index on. -/
def noteItems (registry : Registry) (index : Nat) : List Data → Check (List Note)
  | [] => .ok []
  | value :: rest =>
    List.cons <$> (note registry value).within (.index index)
      <*> noteItems registry (index + 1) rest

/-- A footnote. -/
def note (registry : Registry) : Data → Check Note
  | .obj members => noteOf registry members
  | .mixed members _ => noteOf registry members
  | _ => .fail (.notModel "FnDef")

/-- A footnote, from its members. -/
def noteOf (registry : Registry) (members : List (Text × Data)) : Check Note :=
  Note.mk <$> textOrNone members "id" <*> Check.required members "number" (integerFrom 1)
    <*> blocksIn registry members

end

/-- The blocks of a document. -/
def document (registry : Registry) : Data → Check (List Block)
  | .obj members => blocksIn registry members
  | .mixed members _ => blocksIn registry members
  | _ => .fail (.notModel "Document")

end BlockTree.Schema
