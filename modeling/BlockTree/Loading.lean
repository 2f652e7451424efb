import BlockTree.FileTree
import BlockTree.Json.Reader
import BlockTree.Platform
import BlockTree.Schema.Block
import BlockTree.Schema.Options
import BlockTree.Schema.Report

/-!
Documents and options from files.

* `Platform.loadDocument`: the blocks of a document; a bare list is taken as its blocks, and a value
  that is empty, zero or null as a document without blocks;
* `Platform.loadOptions`: options, all with their defaults if the file holds nothing;
* `LoadFault`: why a file gives neither.
-/

namespace BlockTree

/-- Why a file gives no document or no options. -/
inductive LoadFault where
  | noDocument (path : Text)
  | file (fault : FileFault)
  | unreadable (path : Text) (detail : Option Text)
  | invalidDocument (path : Text) (rejection : Schema.Rejection)
  | malformedOptions
  | notAMapping (path : Text)
  | invalidOptions (path : Text) (rejection : Schema.Rejection)
  | broken (cause : Cause)
  deriving DecidableEq, Repr

/-- The wording of a fault that is reported to the user, if it is one. -/
def LoadFault.report? : LoadFault → Option Text
  | .unreadable path detail =>
    let reason : Text := match detail with
      | none => []
      | some text => ": " ++ text
    some ("Unreadable document " ++ path ++ reason)
  | .invalidDocument path rejection =>
    some ("Invalid document " ++ path ++ ": " ++ rejection.summary)
  | .notAMapping path => some (path ++ " must contain a mapping of render options.")
  | .invalidOptions path rejection =>
    some ("Invalid render options in " ++ path ++ ": " ++ rejection.summary)
  | _ => none

/-! ### Data -/

/-- The formats of structured data. -/
inductive DataFormat where
  | json
  | yaml
  deriving DecidableEq, Repr

/-- The format of a file, by the suffix of its name in any case. -/
def formatOf (path : Path) : DataFormat :=
  if [".yaml".toList, ".yml"].contains (path.suffix.map Char.toLower) then .yaml else .json

/-- The document that data stands for. -/
def documentData (data : Data) : Data :=
  match data with
  | .arr items => .obj [("blocks", .arr items)]
  | value => if value.truthy then value else .obj []

/-! ### Documents -/

namespace Platform

variable (platform : Platform)

/-- The data in a text of a document file. -/
def readData (path : Path) (text : Text) : Except LoadFault Data :=
  match formatOf path with
  | .yaml =>
    match platform.yaml text with
    | .ok data => .ok data
    | .error .malformed => .error (.unreadable path.text none)
    | .error (.broken cause) => .error (.broken cause)
  | .json =>
    match Json.readWith platform.halves (some Text.digitLimit) text with
    | .ok data => .ok data
    | .error fault =>
      match fault.cause with
      | .tooManyDigits count => .error (.broken (.badValue (Text.tooManyDigits count)))
      | _ => .error (.unreadable path.text (some (fault.message text)))

/-- The blocks of a document from the text of its file. -/
def readDocument (registry : Registry) (path : Path) (text : Text) :
    Except LoadFault (List Block) :=
  match platform.readData path text with
  | .error fault => .error fault
  | .ok data =>
    match (Schema.document registry (documentData data)).result "Document" with
    | .ok blocks => .ok blocks
    | .error (.rejected rejection) => .error (.invalidDocument path.text rejection)
    | .error (.broken cause) => .error (.broken cause)

/-- The blocks of a document file. -/
def loadDocument (registry : Registry) (tree : FileTree) (path : Path) :
    Except LoadFault (List Block) :=
  match tree.exists? path with
  | .error fault => .error (.file fault)
  | .ok false => .error (.noDocument path.text)
  | .ok true =>
    match tree.read path with
    | .error fault => .error (.file fault)
    | .ok text => platform.readDocument registry path text

/-! ### Options -/

/-- Options from the text of their file. -/
def readOptions (path : Path) (text : Text) : Except LoadFault Options :=
  match platform.yaml text with
  | .error .malformed => .error .malformedOptions
  | .error (.broken cause) => .error (.broken cause)
  | .ok data =>
    let data := if data.truthy then data else .obj []
    if data.isMapping then
      match (Schema.options data).result "RenderOptions" with
      | .ok options => .ok options
      | .error (.rejected rejection) => .error (.invalidOptions path.text rejection)
      | .error (.broken cause) => .error (.broken cause)
    else .error (.notAMapping path.text)

/-- The options of a file. -/
def loadOptions (tree : FileTree) (path : Path) : Except LoadFault Options :=
  match tree.read path with
  | .error fault => .error (.file fault)
  | .ok text => platform.readOptions path text

end Platform

/-- Options from a text, as the reader of this library reads it. -/
def readOptions (path : Path) (text : Text) : Except LoadFault Options :=
  Platform.standard.readOptions path text

end BlockTree
