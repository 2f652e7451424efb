import BlockTree.Attributes.Splice
import BlockTree.Block
import BlockTree.Dispatch
import BlockTree.Inline.Converter

/-!
What a rendering consults, and the effects it may have.

* `Options`: what a user can choose;
* `Context`: the options together with the converter, the reader of attribute lists and the
  dispatch;
* `RenderM`: a rendering may fail, and handlers take notes in the journal;
* `Context.renderSiblings`: siblings, evaluated in the order of the dispatch and joined in document
  order.
-/

namespace BlockTree

/-- What a user can choose about a rendering. -/
structure Options where
  classPrefix : Option Text := none
  strategy : Strategy := .sequential
  maxWorkers : Option Int := none
  deriving DecidableEq, Repr

/-- Everything that a rendering consults. The number of workers changes no result. -/
structure Context where
  classPrefix : Option Text := none
  convert : Inline.Converter := Inline.Converter.standard []
  readAttributes : Attributes.Reader := Attributes.readList
  dispatch : Dispatch := .sequential

/-- The context with the choices of a user. -/
def Context.ofOptions (options : Options) : Context where
  classPrefix := options.classPrefix
  dispatch := options.strategy.dispatch

/-- A rendering: it may fail, and handlers take notes. -/
abbrev RenderM := Action Fault Journal

namespace Context

/-- The markup with the attributes of a block, and the defaults of its kind, in its first tag. -/
def decorate (ctx : Context) (head : Head) (defaults : Attributes) (html : Text) :
    Except Fault Text :=
  match Attributes.decorate ctx.readAttributes head.attributes defaults html with
  | .ok decorated => .ok decorated
  | .error list => .error (.render (.illegalAttributes list))

/-- Markup without messages, decorated with the attributes of a block. -/
def leaf (ctx : Context) (head : Head) (html : Text) : RenderM Rendered :=
  liftM ((ctx.decorate head [] html).map fun decorated => (⟨decorated, []⟩ : Rendered))

/-- Markup around rendered content, decorated with the attributes of a block. -/
def wrap (ctx : Context) (head : Head) (around : Text → Text) (content : Rendered) :
    RenderM Rendered :=
  liftM ((ctx.decorate head [] (around content.html)).map fun decorated =>
    (⟨decorated, content.messages⟩ : Rendered))

end Context

namespace Part

/-- The failure to join a part whose markup is of another type, by its index. -/
def unjoinable (index : Nat) (typeName : Text) : Cause :=
  .wrongType ("sequence item " ++ Text.decimal index ++ ": expected str instance, " ++ typeName
    ++ " found")

/-- The markup and the messages of siblings one after another, the first with this index. -/
def joinFrom (index : Nat) : List Part → Except Fault Rendered
  | [] => .ok ⟨[], []⟩
  | ⟨.text html, messages⟩ :: rest =>
    (joinFrom (index + 1) rest).map fun joined =>
      ⟨html ++ joined.html, messages ++ joined.messages⟩
  | ⟨.foreign typeName, _⟩ :: _ => .error (.other (unjoinable index typeName))

/-- The markup and the messages of siblings one after another. -/
def join (parts : List Part) : Except Fault Rendered :=
  joinFrom 0 parts

end Part

/-- Renders siblings as the context dispatches them and joins the results in document order. -/
def Context.renderSiblings (ctx : Context) (siblings : List (RenderM Part)) : RenderM Rendered := do
  let results ← ctx.dispatch.run siblings
  liftM (Part.join (inDocumentOrder results))

end BlockTree
