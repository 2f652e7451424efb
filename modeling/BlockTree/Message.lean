import BlockTree.Data

/-!
Diagnostic messages that accompany rendered markup.
-/

namespace BlockTree

/-- How serious a message is. -/
inductive Severity where
  | error
  | warning
  | info
  deriving DecidableEq, Repr

/-- The word for a severity. -/
def Severity.word : Severity → Text
  | .error => "error"
  | .warning => "warning"
  | .info => "info"

/-- A diagnostic about a line of the source. -/
structure Message where
  severity : Severity
  line : Int
  text : Text
  deriving DecidableEq, Repr

namespace Message

/-- A message on one line. -/
def format (message : Message) : Text :=
  "[" ++ message.severity.word ++ "] line " ++ Text.integer message.line ++ ": " ++ message.text

/-- The number of the line has no more digits than can be written. -/
def isWritable (message : Message) : Bool :=
  Text.isWritable message.line

/-- A message as structured data. -/
def toData (message : Message) : Data :=
  .obj [("severity", .str message.severity.word), ("line", .int message.line),
    ("text", .str message.text)]

end Message

end BlockTree
