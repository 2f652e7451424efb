import BlockTree.Attributes.Splice
import BlockTree.Handler

/-!
Sample handlers, one for each way in which a call can end.

* `echo`, `paragraph`, `named`: markup from the lines;
* `diagnostics`: messages written as lines;
* `trace`: takes notes in the journal;
* `decode`, `attributes`: hand on the failures of entities and attribute lists;
* `boom`, `fatal`, `failing`, `unlistable`: fail, each in a way of its own.
-/

namespace BlockTree.Handler

/-- The lines between bars as preformatted text, with a message that counts them. -/
def echo : Handler :=
  ofLines "<Echo>" fun lines =>
    .rendered ⟨.text ("<pre>" ++ Text.join "|" lines ++ "</pre>\n"), [⟨.info, lines.length, "echo"⟩]⟩

/-- The lines as one paragraph. -/
def paragraph : Handler :=
  ofLines "<Para>" fun lines =>
    .rendered ⟨.text ("<p class='k'>" ++ Text.join " " lines ++ "</p>\n"), []⟩

/-- The lines in an element, under a name of its own. -/
def named (name : Text) : Handler :=
  ofLines ("<Named " ++ name ++ ">") fun lines =>
    .rendered ⟨.text ("<" ++ name ++ ">" ++ lines.flatten), []⟩

/-! ### Written messages -/

/-- The severity with a word. -/
def severity? (word : Text) : Option Severity :=
  [Severity.error, .warning, .info].find? fun s => s.word = word

/-- How much of a numeral's quotation is shown if it is none. -/
def quotationLimit : Nat := 200

/-- A message written as severity, line and text with colons between them. -/
def readDiagnostic (raw : Text) : Except Cause Message :=
  let bad : Except Cause Message := .error (.badValue ("bad diagnostic line " ++ raw))
  match Text.cut? ':' raw with
  | none => bad
  | some (word, rest) =>
    match Text.cut? ':' rest, severity? word with
    | some (number, text), some severity =>
      match Text.readInteger number with
      | .ok line => .ok ⟨severity, line, text⟩
      | .error .notANumeral =>
        .error (.badValue ("invalid literal for int() with base 10: "
          ++ (Text.quote number).take quotationLimit))
      | .error (.tooLong digits) => .error (.badValue (Text.tooManyDigits digits))
    | _, _ => bad

/-- A message per line. -/
def diagnostics : Handler :=
  ofLines "<Diag>" fun lines =>
    match lines.mapM readDiagnostic with
    | .ok messages => .rendered ⟨.text [], messages⟩
    | .error cause => .raised (.other cause)

/-! ### Notes -/

/-- Notes the lines in the journal and shows how many notes there are now. -/
def trace : Handler where
  label := "<Trace>"
  render := fun lines journal =>
    let note := Text.join "/" lines
    let journal := journal ++ [note]
    (.rendered ⟨.text ("<i>" ++ Text.decimal journal.length ++ "</i>\n"),
      [⟨.warning, 0, "t:" ++ note⟩]⟩, journal)

/-! ### Failures -/

/-- Crashes with the first line. -/
def boom : Handler :=
  ofLines "<Boom>" fun lines => .raised (.other (.crashed ("boom: " ++ lines.headD [])))

/-- Refuses to render. -/
def fatal : Handler :=
  ofLines "<Fatal>" fun lines => .raised (.render (.refused ("fatal: " ++ Text.join "|" lines)))

/-- Decodes the entities of the lines. -/
def decode : Handler :=
  ofLines "<Decode>" fun lines =>
    match Entity.unescape (Text.join "\n" lines) with
    | .ok html => .rendered ⟨.text html, []⟩
    | .error fault => .raised fault.toFault

/-- Adds the attributes in the first line to an empty element. -/
def attributes : Handler :=
  ofLines "<Attrs>" fun lines =>
    match lines with
    | [] => .raised (.other .missingIndex)
    | raw :: _ =>
      match Attributes.decorate Attributes.readList (.written raw) [] "<div/>" with
      | .ok html => .rendered ⟨.text html, []⟩
      | .error fault => .raised (.render (.illegalAttributes fault))

/-- Fails with the same cause on all lines. -/
def failing (label : Text) (cause : Cause) : Handler :=
  ofLines label fun _ => .raised (.other cause)

/-- Gives markup, with messages that cannot be listed. -/
def unlistable (label html : Text) (cause : Cause) : Handler :=
  ofLines label fun _ => .unlistable (.text html) (.other cause)

end BlockTree.Handler
