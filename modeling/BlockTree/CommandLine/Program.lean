import BlockTree.CommandLine.Arguments

/-!
The commands of the program, with their usage and their help.
-/

namespace BlockTree.CommandLine

/-- A text of several lines, each ended by a line feed. -/
def linesText (lines : List String) : Text :=
  lines.flatMap fun line => line.toList ++ ['\n']

/-- An opening brace. -/
def openBrace : String := "\x7b"

/-- A closing brace. -/
def closeBrace : String := "\x7d"

/-- The names of the commands between braces. -/
def commandSet : String :=
  openBrace ++ "render,escape,unescape" ++ closeBrace

/-- A usage followed by more help. -/
def helpText (usage : Text) (lines : List String) : Text :=
  usage ++ linesText ("" :: lines)

/-! ### The program -/

/-- How the program is called. -/
def programUsage : Text :=
  linesText ["usage: blockrender [-h] " ++ commandSet ++ " ..."]

/-- The program itself: its first operand is a command. -/
def program : Interface where
  program := "blockrender"
  usage := programUsage
  help := helpText programUsage
    ["Render parsed Markdown block trees to HTML.",
     "",
     "positional arguments:",
     "  " ++ commandSet,
     "    render              Render a block document to HTML.",
     "    escape              Escape text for inclusion in HTML.",
     "    unescape            Decode &colon; and numeric entity references.",
     "",
     "options:",
     "  -h, --help            show this help message and exit"]
  switches := [helpSwitch]
  required := []
  operand := .command

/-! ### Rendering -/

/-- How the command that renders is called. -/
def renderUsage : Text :=
  linesText
    ["usage: blockrender render [-h] --input INPUT [--config CONFIG]",
     "                          [--output OUTPUT] [--standalone] [--title TITLE]",
     "                          [--messages-json MESSAGES_JSON] [--parallel]"]

/-- The command that renders a document. -/
def renderCommand : Interface where
  program := "blockrender render"
  usage := renderUsage
  help := helpText renderUsage
    ["Render a JSON or YAML block document to HTML and report any diagnostic",
     "messages on stderr.",
     "",
     "options:",
     "  -h, --help            show this help message and exit",
     "  --input INPUT         Path to the block document (.json, .yaml or .yml).",
     "  --config CONFIG       Optional YAML file with render options.",
     "  --output OUTPUT       File to write HTML to; stdout when omitted.",
     "  --standalone          Wrap the fragment in a complete HTML page.",
     "  --title TITLE         Page title used with --standalone (defaults to the",
     "                        input file stem).",
     "  --messages-json MESSAGES_JSON",
     "                        Also write diagnostic messages to this JSON file.",
     "  --parallel            Render sibling blocks on a thread pool."]
  switches :=
    [helpSwitch, ⟨["--input"], true⟩, ⟨["--config"], true⟩, ⟨["--output"], true⟩,
     ⟨["--standalone"], false⟩, ⟨["--title"], true⟩, ⟨["--messages-json"], true⟩,
     ⟨["--parallel"], false⟩]
  required := ["--input"]
  operand := .nothing

/-! ### Entities -/

/-- How the command that escapes is called. -/
def escapeUsage : Text :=
  linesText ["usage: blockrender escape [-h] [--encode] text"]

/-- The command that escapes a text. -/
def escapeCommand : Interface where
  program := "blockrender escape"
  usage := escapeUsage
  help := helpText escapeUsage
    ["positional arguments:",
     "  text        Text to escape.",
     "",
     "options:",
     "  -h, --help  show this help message and exit",
     "  --encode    Convert every ampersand, including ones that start an entity."]
  switches := [helpSwitch, ⟨["--encode"], false⟩]
  required := []
  operand := .one "text"

/-- How the command that decodes is called. -/
def unescapeUsage : Text :=
  linesText ["usage: blockrender unescape [-h] text"]

/-- The command that decodes a text. -/
def unescapeCommand : Interface where
  program := "blockrender unescape"
  usage := unescapeUsage
  help := helpText unescapeUsage
    ["positional arguments:",
     "  text        Text to decode.",
     "",
     "options:",
     "  -h, --help  show this help message and exit"]
  switches := [helpSwitch]
  required := []
  operand := .one "text"

/-! ### Requests -/

/-- What the command that renders is asked to do. -/
structure RenderRequest where
  input : Text
  config : Option Text
  output : Option Text
  standalone : Bool
  title : Option Text
  messages : Option Text
  parallel : Bool
  deriving DecidableEq, Repr

/-- What the program is asked to do. A request to render may come without a document. -/
inductive Request where
  | render (request : RenderRequest)
  | renderNothing
  | escape (every : Bool) (text : Text)
  | unescape (text : Text)
  | help (text : Text)
  | misuse (interface : Interface) (complaint : Text)

/-- The texts of the files that a request names. -/
def Request.files : Request → List Text
  | .render request =>
    request.input :: (request.config.toList ++ request.output.toList ++ request.messages.toList)
  | _ => []

/-- The value of a switch. -/
def Parsed.value? (parsed : Parsed) (name : Text) : Option Text :=
  (parsed.values.find? name).bind List.head?

/-- The value of a switch; an empty one counts as none. -/
def Parsed.filled? (parsed : Parsed) (name : Text) : Option Text :=
  (parsed.value? name).filter (!·.isEmpty)

/-- A flag was given. -/
def Parsed.flag (parsed : Parsed) (name : Text) : Bool :=
  (parsed.values.find? name).isSome

/-- The request to render a document that arguments make. -/
def RenderRequest.ofParsed (input : Text) (parsed : Parsed) : RenderRequest where
  input := input
  config := parsed.filled? "--config"
  output := parsed.filled? "--output"
  standalone := parsed.flag "--standalone"
  title := parsed.filled? "--title"
  messages := parsed.filled? "--messages-json"
  parallel := parsed.flag "--parallel"

/-- The request to render that arguments make. -/
def Request.ofRender (parsed : Parsed) : Request :=
  match parsed.value? "--input" with
  | some input => .render (.ofParsed input parsed)
  | none => .renderNothing

/-- The commands by name: their arguments, and the request that these make. -/
def commands : List (Text × Interface × (Parsed → Request)) :=
  [("render", renderCommand, .ofRender),
   ("escape", escapeCommand, fun parsed =>
      .escape (parsed.flag "--encode") (parsed.operands.headD [])),
   ("unescape", unescapeCommand, fun parsed => .unescape (parsed.operands.headD []))]

/-- The complaint about a word that names no command. -/
def unknownCommand (word : Text) : Text :=
  "argument command: invalid choice: " ++ Text.quote word ++ " (choose from "
    ++ Text.join ", " (commands.map fun command => Text.quote command.1) ++ ")"

/-- A request, unless arguments are left over. -/
def withoutExtras (extras : List Text) (request : Request) : Request :=
  if extras.isEmpty then request
  else .misuse program ("unrecognized arguments: " ++ Text.join " " extras)

/-- The request of a command with its arguments. -/
def commandRequest (extras : List Text) (word : Text) (arguments : List Text) : Request :=
  match commands.find? fun command => command.1 = word with
  | none => .misuse program (unknownCommand word)
  | some (_, interface, request) =>
    match interface.read arguments with
    | .help => .help interface.help
    | .misuse complaint => .misuse interface complaint
    | .parsed parsed => withoutExtras (extras ++ parsed.extras) (request parsed)

/-- The request that the arguments of the program make. -/
def Request.ofArguments (arguments : List Text) : Request :=
  match program.read arguments with
  | .help => .help program.help
  | .misuse complaint => .misuse program complaint
  | .parsed parsed =>
    match parsed.operands with
    | [] => withoutExtras parsed.extras (.help program.help)
    | word :: rest => commandRequest parsed.extras word rest

end BlockTree.CommandLine
