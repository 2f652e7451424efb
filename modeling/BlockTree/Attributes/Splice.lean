import BlockTree.Attributes.Basic

/-!
Splicing attributes into markup that is already written.

* `splice` inserts a serialization before the end of the first tag: before the first `>`, the slash
  directly in front of it and the blanks in front of those;
* `decorate` splices the attributes of a block into its outer tag.
-/

namespace BlockTree.Attributes

/-- The text starts with the end of a tag: blanks, an optional slash and `>`. -/
def atTagEnd (text : Text) : Bool :=
  match text.dropWhile Text.isBlank with
  | '>' :: _ => true
  | '/' :: '>' :: _ => true
  | _ => false

/-- Inserts a text before the first end of a tag. -/
def insertAtTagEnd (inserted : Text) : Text → Text
  | [] => []
  | c :: rest =>
    if atTagEnd (c :: rest) then inserted ++ c :: rest else c :: insertAtTagEnd inserted rest

/-- Inserts serialized attributes into the first tag of the markup, after a blank. -/
def splice (serialized markup : Text) : Text :=
  if serialized.isEmpty then markup else insertAtTagEnd (' ' :: serialized) markup

/-- Splices the attributes of a block, with the defaults of its kind, into the first tag. -/
def decorate (reader : Reader) (spec : Spec) (defaults : Attributes) (markup : Text) :
    Except IllegalList Text :=
  (spec.resolveWith reader defaults).map fun attributes => splice (serialize attributes) markup

end BlockTree.Attributes
