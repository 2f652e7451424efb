import BlockTree.Data
import BlockTree.Yaml.Moment

/-!
Scalars: what a word stands for.

A plain word may stand for null, a boolean, a number or a moment; any other plain word, and every
word between quotation marks, is a text. Two plain words have a meaning as names of members only.
-/

namespace BlockTree.Yaml

/-- The words for null. -/
def nullWords : List Text := ["", "~", "null", "Null", "NULL"]

/-- The words for true. -/
def trueWords : List Text :=
  ["yes", "Yes", "YES", "true", "True", "TRUE", "on", "On", "ON"]

/-- The words for false. -/
def falseWords : List Text :=
  ["no", "No", "NO", "false", "False", "FALSE", "off", "Off", "OFF"]

/-- What a word stands for: a value, a value that cannot be made, the name under which mappings are
merged, or the equals sign, which is a text only as a name. -/
inductive Scalar where
  | value (data : Data)
  | faulty (fault : Fault)
  | merge
  | equals

namespace Scalar

/-- The scalar of a value, or of the fault in its place. -/
def ofResult {α : Type} (data : α → Data) : Except Fault α → Scalar
  | .ok a => .value (data a)
  | .error fault => .faulty fault

/-- The scalar of a plain word that is neither null nor a boolean nor reserved. -/
def ofOther (word : Text) : Scalar :=
  match integer? word, real? word, moment? word with
  | some result, _, _ => ofResult .int result
  | none, some result, _ => ofResult .real result
  | none, none, some result => ofResult (fun moment => .foreign moment.spelling) result
  | none, none, none => .value (.str word)

/-- The scalar of a plain word. -/
def ofPlain (word : Text) : Scalar :=
  if word = ['='] then .equals
  else if word = ['<', '<'] then .merge
  else if nullWords.contains word then .value .null
  else if trueWords.contains word then .value (.bool true)
  else if falseWords.contains word then .value (.bool false)
  else ofOther word

/-- The fault of a scalar that stands in the place of a value. -/
def fault? : Scalar → Option Fault
  | .value _ => none
  | .faulty fault => some fault
  | .merge => some .malformed
  | .equals => some .malformed

/-- The value of a scalar without fault. -/
def data : Scalar → Data
  | .value data => data
  | _ => .null

end Scalar

end BlockTree.Yaml
