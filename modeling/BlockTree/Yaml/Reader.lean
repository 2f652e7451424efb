import BlockTree.Yaml.Grammar

/-!
Reading structured data from a text with indentation.

Collections are written as indented blocks, or between brackets; scalars are plain or stand between
quotation marks. `Yaml.read` gives the one value of a text, or why there is none: faults in the
structure come before scalars that have no value.
-/

namespace BlockTree.Yaml

/-- The characters that a text may hold. -/
def isAllowed (c : Char) : Bool :=
  let n := c.toNat
  n = 9 || n = 10 || n = 13 || (32 ≤ n && n ≤ 126) || n = 0x85
    || (0xA0 ≤ n && n ≠ 0xFFFE && n ≠ 0xFFFF)

/-- The one node of a text. -/
def readNode (text : Text) : Except Fault Node :=
  let (tokens, fault) := Lexer.tokens text
  ((Grammar.document (fault.getD .malformed) (3 * tokens.length + 3)).run tokens).map Prod.fst

/-- The one value of a text. -/
def read (text : Text) : Except Fault Data :=
  if !text.all isAllowed then .error .malformed
  else
    match readNode text with
    | .error fault => .error fault
    | .ok node =>
      match node.fault? (text.length + 2) with
      | some fault => .error fault
      | none => .ok node.data

end BlockTree.Yaml
