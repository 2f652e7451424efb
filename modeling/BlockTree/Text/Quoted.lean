import BlockTree.Text.Numeral

/-!
Quotations: a text between quotation marks on one line, as messages show it.

A quotation uses single marks unless the text holds a single mark and no double mark. Backslashes,
the mark itself and every character that is not printed are written as escapes.
-/

namespace BlockTree.Text

/-- The mark around the quotation of a text. -/
def quoteMark (text : Text) : Char :=
  if text.contains '\x27' && !text.contains '"' then '"' else '\x27'

/-- The hexadecimal numeral of a number, with zeros in front up to a width. -/
def paddedHex (width n : Nat) : Text :=
  (hexadecimal n).leftpad width '0'

/-- How a character is written between two quotation marks. -/
def quoteChar (mark c : Char) : Text :=
  if c = mark || c = '\\' then ['\\', c]
  else if c = '\n' then "\\n"
  else if c = '\r' then "\\r"
  else if c = '\t' then "\\t"
  else if isPrinted c then [c]
  else if c.toNat < 0x100 then "\\x" ++ paddedHex 2 c.toNat
  else if c.toNat < 0x10000 then "\\u" ++ paddedHex 4 c.toNat
  else "\\U" ++ paddedHex 8 c.toNat

/-- The quotation of a text. -/
def quote (text : Text) : Text :=
  let mark := quoteMark text
  mark :: text.flatMap (quoteChar mark) ++ [mark]

end BlockTree.Text
