import BlockTree.Text.Basic

/-!
A complete page around a rendered fragment.

The language and the title are escaped; the body stands as it is.
-/

namespace BlockTree.Page

/-- The reference for a special character of an attribute or a title. -/
def escapeChar (c : Char) : Text :=
  if c = '&' then "&amp;"
  else if c = '<' then "&lt;"
  else if c = '>' then "&gt;"
  else if c = '\x27' then "&#39;"
  else if c = '"' then "&#34;"
  else [c]

/-- Escapes the special characters of a text. -/
def escape (text : Text) : Text :=
  text.flatMap escapeChar

/-- The page with a language, a title and a body. -/
def render (lang title body : Text) : Text :=
  "<!DOCTYPE html>\n<html lang=\"" ++ escape lang
    ++ "\">\n<head>\n  <meta charset=\"utf-8\">\n  <title>" ++ escape title
    ++ "</title>\n</head>\n<body>\n" ++ body ++ "\n</body>\n</html>"

end BlockTree.Page
