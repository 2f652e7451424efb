import BlockTree.CommandLine.Program
import BlockTree.Json.Writer
import BlockTree.Loading
import BlockTree.Page
import BlockTree.Render.Schedule

/-!
Runs of the program on a tree of files.

* `Report`: how a run ended, what it printed, and the files and the journal after it;
* `Platform.runRender`: loads the document and the options and renders before anything is written or
  printed;
* `Platform.run`: a run with any arguments, and `run` on the standard platform.
-/

namespace BlockTree

namespace CommandLine

/-- What ends a run without a word to the user. -/
inductive Failure where
  | load (fault : LoadFault)
  | file (fault : FileFault)
  | other (cause : Cause)
  deriving DecidableEq, Repr

/-- The wording of a failure. -/
def Failure.message : Failure → Text
  | .load (.noDocument path) => "Document not found: " ++ path
  | .load (.file fault) => fault.message
  | .load (.broken cause) => cause.message
  | .load fault => fault.report?.getD []
  | .file fault => fault.message
  | .other cause => cause.message

/-- How a run ends: with a status, with a word to the user, or with a failure. -/
inductive Ending where
  | status (code : Nat)
  | complaint (text : Text)
  | failure (failure : Failure)
  deriving DecidableEq, Repr

/-- What came of a run. -/
structure Report where
  ending : Ending
  output : Text
  errors : Text
  files : FileTree
  journal : Journal

/-- A run that printed and wrote nothing. -/
def Report.quiet (ending : Ending) (files : FileTree) (journal : Journal) : Report :=
  ⟨ending, [], [], files, journal⟩

/-! ### Rendering -/

/-- How a run ends whose document or options could not be loaded. -/
def Ending.ofLoadFault (fault : LoadFault) : Ending :=
  match fault.report? with
  | some text => .complaint text
  | none => .failure (.load fault)

/-- How a run ends whose document could not be rendered. -/
def Ending.ofFault (input : Path) : Fault → Ending
  | .render fault => .complaint ("Failed to render " ++ input.text ++ ": " ++ fault.message)
  | .other cause => .failure (.other cause)

/-- The fragment, or a complete page around it. -/
def finish (request : RenderRequest) (html : Text) : Text :=
  if request.standalone then
    Page.render "en" (request.title.getD (Path.ofText request.input).stem) html
  else html

/-- The messages as structured data in a stable form. -/
def writeMessages (messages : List Message) : Text :=
  Json.write (.arr (messages.map Message.toData))

/-- The messages, one on a line. -/
def messageLines (messages : List Message) : Text :=
  messages.flatMap fun message => message.format ++ ['\n']

/-- The messages that are printed: those in front of the first that cannot be written. -/
def printable (messages : List Message) : List Message :=
  messages.takeWhile Message.isWritable

/-- How a run ends that wrote all its outputs. -/
def Ending.ofMessages (messages : List Message) : Ending :=
  .status (if messages.any fun message => message.severity = .error then 1 else 0)

/-- A run that prints a text and ends well. -/
def Report.printed (output : Text) (files : FileTree) (journal : Journal) : Report :=
  ⟨.status 0, output, [], files, journal⟩

/-- The failure to write a text as octets. -/
def unencodable (words : Text) : Failure :=
  .other (.unusual "UnicodeEncodeError" words)

/-- How a run ends whose text could not be decoded. -/
def Ending.ofEntityFault (text : Text) (fault : Entity.Fault) : Ending :=
  match fault.toFault with
  | .render fault => .complaint ("Cannot decode " ++ Text.quote text ++ ": " ++ fault.message)
  | .other cause => .failure (.other cause)

/-- The failure of a request without a document. -/
def noDocumentNamed : Cause :=
  .wrongType "expected str, bytes or os.PathLike object, not list"

end CommandLine

/-! ### Runs -/

namespace Platform

open CommandLine

variable (platform : Platform)

/-- The options that a request asks for. -/
def requestedOptions (files : FileTree) (request : RenderRequest) : Except LoadFault Options :=
  let options : Except LoadFault Options :=
    match request.config with
    | none => .ok {}
    | some config => platform.loadOptions files (.ofText config)
  options.map fun options =>
    if request.parallel then { options with strategy := .parallel } else options

/-- Writes a text to a file, and fails if it cannot. If the text cannot be written as octets, the
file is there all the same and empty. -/
def writeFile (files : FileTree) (target text : Text) : FileTree × Option Failure :=
  match files.write (.ofText target) (platform.halves.stored text) with
  | .error fault => (files, some (.file fault))
  | .ok files => (files, (platform.halves.fault? text).map unencodable)

/-- Prints messages as lines, and writes them to the file that was asked for. -/
def deliverMessages (files : FileTree) (journal : Journal) (target : Option Text) (printed : Text)
    (messages : List Message) : Report :=
  let errors := platform.halves.spelled (messageLines (printable messages))
  if messages.all Message.isWritable then
    let (files, failure) := match target with
      | some target => platform.writeFile files target (writeMessages messages)
      | none => (files, none)
    ⟨(failure.map Ending.failure).getD (.ofMessages messages), printed, errors, files, journal⟩
  else ⟨.failure (.other (.badValue Text.tooLongToWrite)), printed, errors, files, journal⟩

/-- Writes or prints the markup of a rendering, and then its messages. -/
def deliver (files : FileTree) (journal : Journal) (request : RenderRequest) (rendered : Rendered) :
    Report :=
  let html := finish request rendered.html
  let (files, failure) := match request.output with
    | some target => platform.writeFile files target html
    | none => (files, (platform.halves.fault? html).map unencodable)
  match failure with
  | some failure => .quiet (.failure failure) files journal
  | none =>
    let printed := if request.output.isNone then html else []
    platform.deliverMessages files journal request.messages printed rendered.messages

/-- Renders a document file. -/
def runRender (registry : Registry) (files : FileTree) (journal : Journal)
    (request : RenderRequest) : Report :=
  let input := Path.ofText request.input
  match platform.loadDocument registry files input with
  | .error fault => .quiet (.ofLoadFault fault) files journal
  | .ok blocks =>
    match platform.requestedOptions files request with
    | .error fault => .quiet (.ofLoadFault fault) files journal
    | .ok options =>
      let schedule := platform.pool.schedule options.strategy
      match renderBlocksAt (.ofOptions options) schedule blocks journal with
      | (.error fault, journal) => .quiet (.ofFault input fault) files journal
      | (.ok rendered, journal) => platform.deliver files journal request rendered

/-- Runs the program with a request. No half of a pair comes from the arguments, so what is made of
these alone can be printed. -/
def runRequest (registry : Registry) (files : FileTree) (journal : Journal) : Request → Report
  | .render request => platform.runRender registry files journal request
  | .renderNothing => .quiet (.failure (.other noDocumentNamed)) files journal
  | .escape every text => .printed (Entity.escape every text ++ ['\n']) files journal
  | .unescape text =>
    match Entity.unescape text with
    | .ok decoded => .printed (decoded ++ ['\n']) files journal
    | .error fault => .quiet (.ofEntityFault text fault) files journal
  | .help text => .printed text files journal
  | .misuse interface complaint =>
    ⟨.status 2, [], interface.usage ++ interface.program ++ ": error: " ++ complaint ++ ['\n'],
      files, journal⟩

/-- Runs the program with arguments. -/
def run (registry : Registry) (files : FileTree) (journal : Journal) (arguments : List Text) :
    Report :=
  platform.runRequest registry files journal (.ofArguments arguments)

end Platform

/-- Runs the program with arguments on the standard platform. -/
def CommandLine.run (registry : Registry) (files : FileTree) (journal : Journal)
    (arguments : List Text) : Report :=
  Platform.standard.run registry files journal arguments

end BlockTree
