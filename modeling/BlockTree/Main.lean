import BlockTree.CommandLine.Run
import BlockTree.Handler.Samples

/-!
The program: files are read before a run and written after it; the run itself is `CommandLine.run`.
-/

namespace BlockTree.CommandLine

/-- The handlers that documents can name. -/
def handlers : Registry :=
  [⟨"handlers", false,
    [("echo", .object (.handler .echo)), ("paragraph", .object (.handler .paragraph)),
     ("diagnostics", .object (.handler .diagnostics)), ("trace", .object (.handler .trace)),
     ("decode", .object (.handler .decode)), ("attributes", .object (.handler .attributes))]⟩]

/-- The contents of the file at a path, if there is one. -/
def storedFile? (path : Path) : IO (Option Octets) := do
  try
    let bytes ← IO.FS.readBinFile (String.ofList path.text)
    return some bytes.toList
  catch _ => return none

/-- The stored files among some paths and the folders on the way to them. -/
def storedFiles (paths : List Path) : IO FileTree :=
  (paths.flatMap Path.stations).foldlM
    (fun tree path => do
      match ← storedFile? path with
      | some octets => return Entries.insert path.text octets tree
      | none => return tree)
    []

/-- Stores a file, in a folder that is made if it is not there. -/
def store (path : Path) (octets : Octets) : IO Unit := do
  unless path.parent.parts.isEmpty do
    IO.FS.createDirAll (String.ofList path.parent.text)
  IO.FS.writeBinFile (String.ofList path.text) ⟨octets.toArray⟩

/-- Prints a line for the user. -/
def tell (line : Text) : IO Unit :=
  IO.eprintln (String.ofList (Platform.standard.halves.spelled line))

/-- Tells the user how a run ended and gives the status of the program. -/
def conclude : Ending → IO UInt32
  | .status code => return UInt32.ofNat code
  | .complaint text => do
    tell text
    return 1
  | .failure failure => do
    tell failure.message
    return 1

end BlockTree.CommandLine

open BlockTree BlockTree.CommandLine in
/-- Runs the program. -/
def main (args : List String) : IO UInt32 := do
  let arguments := args.map String.toList
  let files ← storedFiles ((Request.ofArguments arguments).files.map Path.ofText)
  let report := run handlers files [] arguments
  for (path, octets) in FileTree.changes files report.files do
    store (Path.ofText path) octets
  IO.print (String.ofList report.output)
  IO.eprint (String.ofList report.errors)
  conclude report.ending
