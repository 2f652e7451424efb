import BlockTree.Fault
import BlockTree.Message

/-!
Handlers: what renders the lines of a plugin block.

A handler may take notes in a journal that all handlers share. Its reply is what came of one call;
`Reply.settle` says which replies are failures of the plugin, which pass through, and which only
show when the messages are used. A handler may also give markup that is no text: that is noticed when
the parts of siblings are joined.
-/

namespace BlockTree

/-- The notes that handlers took, in order. -/
abbrev Journal := List Text

/-- Markup with the messages about it. -/
structure Rendered where
  html : Text
  messages : List Message
  deriving DecidableEq, Repr

/-- What a handler gives for markup: a text, or a value of another type, which joins with no text. -/
inductive Fragment where
  | text (html : Text)
  | foreign (typeName : Text)
  deriving DecidableEq, Repr

/-- What one block contributes to the markup and the messages of its siblings. -/
structure Part where
  fragment : Fragment
  messages : List Message
  deriving DecidableEq, Repr

/-- Rendered markup as a contribution. -/
def Rendered.part (rendered : Rendered) : Part :=
  ⟨.text rendered.html, rendered.messages⟩

/-- What comes of a call of a handler: a part, markup with messages that fail while they are listed,
a failure, or a failure that fails again while it is put into words. -/
inductive Reply where
  | rendered (part : Part)
  | unlistable (fragment : Fragment) (fault : Fault)
  | raised (fault : Fault)
  | unspoken (fault : Fault)

/-- An object that renders lines. -/
structure Handler where
  label : Text
  render : List Text → Journal → Reply × Journal

/-- The result of a call of the handler with this label. An expected failure passes as it is, any
other failure of the call is the plugin's; messages that cannot be listed fail after the call, and so
does the wording of the plugin's failure. -/
def Reply.settle (label : Text) : Reply → Except Fault Part
  | .rendered part => .ok part
  | .unlistable _ fault => .error fault
  | .raised (.render fault) => .error (.render fault)
  | .raised (.other cause) => .error (.render (.handlerFailed label cause))
  | .unspoken fault => .error fault

namespace Handler

/-- A handler whose reply depends on the lines alone. -/
def ofLines (label : Text) (reply : List Text → Reply) : Handler :=
  ⟨label, fun lines journal => (reply lines, journal)⟩

end Handler

end BlockTree
