import BlockTree.Entity
import BlockTree.Inline.Delimiter
import BlockTree.Markup

/-!
Emphasis in running text: strong, struck and emphasised runs.

`formatText` escapes a text and then passes over it three times, once per element; each pass sees
the result of the one before.
-/

namespace BlockTree.Inline

/-- A pass that turns delimited runs into an element around their bodies. -/
structure Pass where
  delimiters : List Delimiter
  wrap : Text → Text

namespace Pass

/-- Two asterisks, or two underscores that touch no word, for strong emphasis. -/
def strong : Pass := ⟨[⟨"**", false⟩, ⟨"__", true⟩], Markup.strong⟩

/-- Two tildes for struck text. -/
def struck : Pass := ⟨[⟨"~~", false⟩], Markup.struck⟩

/-- One asterisk, or one underscore that touches no word, for emphasis. -/
def emphasis : Pass := ⟨[⟨"*", false⟩, ⟨"_", true⟩], Markup.emphasis⟩

/-- The passes in the order of their application. -/
def all : List Pass := [strong, struck, emphasis]

/-- The markup of a segment. -/
def wrapSegment (pass : Pass) : Segment → Text
  | .plain c => [c]
  | .run _ body => pass.wrap body

/-- Wraps the body of every delimited run. -/
def wrapRuns (pass : Pass) (text : Text) : Text :=
  (segments pass.delimiters none text).flatMap pass.wrapSegment

end Pass

/-- Applies the passes one after another. -/
def emphasize (text : Text) : Text :=
  Pass.all.foldl (fun acc pass => pass.wrapRuns acc) text

/-- Running text as markup: escaped, with its emphasis. -/
def formatText (text : Text) : Text :=
  emphasize (Entity.escape false text)

end BlockTree.Inline
