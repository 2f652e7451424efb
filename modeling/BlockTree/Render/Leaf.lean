import BlockTree.Render.Context

/-!
Blocks without children: paragraphs, headings, code, rulers and plugins.
-/

namespace BlockTree

/-- The classes of code in a language: the language alone, and after each of the prefixes. -/
def codeClasses (language : Text) (classPrefix : Option Text) : Text :=
  Text.join " " (([] :: Text.words (classPrefix.getD [])).map fun lead => lead ++ language)

/-- The class attribute of code in a language, if it has one. -/
def codeClassAttribute (language classPrefix : Option Text) : Text :=
  match language with
  | none => []
  | some language =>
    if language.isEmpty then [] else " class=\"" ++ codeClasses language classPrefix ++ "\""

/-- The markup of lines of code. -/
def codeHtml (language classPrefix : Option Text) (lines : List Text) : Text :=
  "<pre><code" ++ codeClassAttribute language classPrefix ++ ">"
    ++ Text.join "\n" (lines.map (Entity.escape true)) ++ "</code></pre>\n"

/-- The markup of a paragraph. -/
def paragraphHtml (convert : Inline.Converter) (lines : List Text) : Text :=
  "<p>" ++ convert (.lines lines) ++ "</p>\n"

namespace Context

/-- A paragraph. -/
def paragraph (ctx : Context) (head : Head) (lines : List Text) : RenderM Rendered :=
  ctx.leaf head (paragraphHtml ctx.convert lines)

/-- A heading of a level. -/
def heading (ctx : Context) (head : Head) (level : Int) (content : Text) : RenderM Rendered :=
  let tag := "h" ++ Text.integer level
  ctx.leaf head ("<" ++ tag ++ ">" ++ ctx.convert (.text content) ++ "</" ++ tag ++ ">\n")

/-- Code as it was written. -/
def code (ctx : Context) (head : Head) (lines : List Text) (language : Option Text) :
    RenderM Rendered :=
  ctx.leaf head (codeHtml language ctx.classPrefix lines)

/-- The class that a ruler has by default. -/
def rulerDefaults (mark : RulerMark) : Attributes :=
  [("class", [mark.className])]

/-- A ruler, whose class follows from its mark. -/
def ruler (ctx : Context) (head : Head) (mark : RulerMark) : RenderM Rendered :=
  liftM ((ctx.decorate head (rulerDefaults mark) "<hr/>\n").map fun html =>
    (⟨html, []⟩ : Rendered))

/-- An attribute list that stands alone is shown as a paragraph. -/
def attributeList (ctx : Context) (content : Text) : Rendered :=
  ⟨paragraphHtml ctx.convert [['\x7b', ':'] ++ content ++ ['\x7d']], []⟩

end Context

/-- Calls the handler of a plugin block. -/
def Handler.call (handler : Handler) (lines : List Text) : RenderM Part := fun journal =>
  let (reply, journal) := handler.render lines journal
  (reply.settle handler.label, journal)

end BlockTree
