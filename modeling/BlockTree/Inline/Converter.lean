import BlockTree.Entries
import BlockTree.Inline.Emphasis
import BlockTree.Inline.Span

/-!
Conversion of inline content to markup.

* `Content`: the content of a block is one text or a list of lines;
* `Converter.standard`: spans become elements and the text between them gets its emphasis; a line
  that ends in two blanks is followed by a hard break, unless it is the last;
* `Converter.bracketed`: shows the content between brackets as it is.
-/

namespace BlockTree.Inline

/-- What a block has to convert: one text, or a list of lines. -/
inductive Content where
  | text (words : Text)
  | lines (parts : List Text)

/-- A way to turn content into markup. -/
abbrev Converter := Content → Text

/-- The markup of a span. Footnotes are looked up by their identifier. The number of a footnote is
written here whatever it is; one that cannot be written (`Text.isWritable`) is a value error, and
the line with the reference has no markup. -/
def renderSpan (footnotes : Entries Int) (span : Span) : Text :=
  match span with
  | .running words => formatText words
  | .code _ body => Markup.code (Entity.escape true (Text.trim Text.isBlank body))
  | .tag source => source
  | .image alternative path title =>
    Markup.image (Entity.escape false path) (Entity.escape false alternative)
      (title.map fun t => Entity.escape false t.words)
  | .note id =>
    match footnotes.find? id with
    | none => formatText span.source
    | some number =>
      Markup.footnoteReference (Markup.noteId number) (Markup.referenceId number) number
  | .link label address title =>
    Markup.link (Entity.escape false address) (formatText label)
      (title.map fun t => Entity.escape false t.words)

/-- The markup of a line. -/
def renderLine (footnotes : Entries Int) (line : Text) : Text :=
  (spans line).flatMap (renderSpan footnotes)

/-- The line ends in two blanks, or in two blanks and a line feed. -/
def endsInBreak (line : Text) : Bool :=
  match line.reverse with
  | ' ' :: ' ' :: _ => true
  | '\n' :: ' ' :: ' ' :: _ => true
  | _ => false

/-- The markup of a line that others follow, with its hard break. -/
def renderInnerLine (footnotes : Entries Int) (line : Text) : Text :=
  if endsInBreak line then
    renderLine footnotes (Text.trimEnd (· = ' ') line) ++ Markup.lineBreak
  else renderLine footnotes line

/-- The markup of each line in turn. -/
def renderLines (footnotes : Entries Int) : List Text → List Text
  | [] => []
  | [line] => [renderLine footnotes line]
  | line :: rest => renderInnerLine footnotes line :: renderLines footnotes rest

/-- The lines of the content. -/
def Content.toLines : Content → List Text
  | .text words => Text.lines words
  | .lines parts => parts

namespace Converter

/-- Converts spans, emphasis and hard breaks, with the numbers of the known footnotes. -/
def standard (footnotes : Entries Int) : Converter := fun content =>
  Text.join ['\n'] (renderLines footnotes content.toLines)

/-- Shows the content between brackets, its lines between bars. -/
def bracketed : Converter
  | .text words => "[str|" ++ words ++ "]"
  | .lines parts => "[" ++ Text.join "|" parts ++ "]"

end Converter

end BlockTree.Inline
