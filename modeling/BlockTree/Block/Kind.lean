import BlockTree.Block

/-!
The kinds of blocks and their words.
-/

namespace BlockTree

/-- The kinds of blocks. -/
inductive BlockKind where
  | para
  | heading
  | quote
  | code
  | ruler
  | list
  | item
  | table
  | html
  | htmlOther
  | footnotes
  | attributeList
  | linkTarget
  | plugin
  deriving DecidableEq, Repr

namespace BlockKind

/-- All kinds. -/
def all : List BlockKind :=
  [para, heading, quote, code, ruler, list, item, table, html, htmlOther, footnotes, attributeList,
   linkTarget, plugin]

/-- The word for a kind. -/
def word : BlockKind → Text
  | para => "para"
  | heading => "heading"
  | quote => "blockquote"
  | code => "code"
  | ruler => "ruler"
  | list => "list"
  | item => "list_item"
  | table => "table"
  | html => "html"
  | htmlOther => "html_other"
  | footnotes => "fn_list"
  | attributeList => "ial"
  | linkTarget => "id_def"
  | plugin => "plugin"

/-- The kind with a word. -/
def ofWord? (word : Text) : Option BlockKind :=
  all.find? fun kind => kind.word = word

end BlockKind

end BlockTree
