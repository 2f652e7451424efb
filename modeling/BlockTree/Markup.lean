import BlockTree.Text.Numeral

/-!
Markup of the inline elements, from parts that are already escaped.
-/

namespace BlockTree.Markup

/-- A hard line break. -/
def lineBreak : Text := "<br/>"

/-- An element around a body. -/
def element (name body : Text) : Text :=
  "<" ++ name ++ ">" ++ body ++ "</" ++ name ++ ">"

/-- A code span. -/
def code (body : Text) : Text :=
  "<code class=\"inline\">" ++ body ++ "</code>"

/-- Emphasised text. -/
def emphasis (body : Text) : Text := element "em" body

/-- Strongly emphasised text. -/
def strong (body : Text) : Text := element "strong" body

/-- Struck text. -/
def struck (body : Text) : Text := element "del" body

/-- The title attribute, if there is a title. -/
def titleAttribute : Option Text → Text
  | none => []
  | some title => " title=\"" ++ title ++ "\""

/-- A link to an address. -/
def link (address body : Text) (title : Option Text) : Text :=
  "<a href=\"" ++ address ++ "\"" ++ titleAttribute title ++ ">" ++ body ++ "</a>"

/-- An image with a text for those who do not see it. -/
def image (path alternative : Text) (title : Option Text) : Text :=
  "<img src=\"" ++ path ++ "\" alt=\"" ++ alternative ++ "\"" ++ titleAttribute title ++ "/>"

/-- A reference to a footnote, which the note's return link points back at. -/
def footnoteReference (target back : Text) (number : Int) : Text :=
  "<a href=\"#" ++ target ++ "\" id=\"" ++ back ++ "\" class=\"footnote\" title=\"see footnote\">"
    ++ Text.integer number ++ "</a>"

/-- The identifier of the item of a footnote. -/
def noteId (number : Int) : Text :=
  "fn:" ++ Text.integer number

/-- The identifier of the reference to a footnote. -/
def referenceId (number : Int) : Text :=
  "fnref:" ++ Text.integer number

/-- The link from a footnote back to its reference. -/
def returnLink (number : Int) : Text :=
  "<a href=\"#" ++ referenceId number
    ++ "\" title=\"return to article\" class=\"reversefootnote\">&#x21A9;</a>"

end BlockTree.Markup
