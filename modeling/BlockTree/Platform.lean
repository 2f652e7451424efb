import BlockTree.Dispatch
import BlockTree.Fault
import BlockTree.Yaml.Reader

/-!
What a run takes from its surroundings.

* `Platform`: a reader for texts with indentation, the characters that stand for halves of surrogate
  pairs, and a pool of workers;
* `Platform.standard`: the reader of this library, and a pool that keeps to the document order.
-/

namespace BlockTree

/-- Why a reader finds no value in a text: the text is malformed, or the reader fails on it in
another way. -/
inductive ReadFault where
  | malformed
  | broken (cause : Cause)
  deriving DecidableEq, Repr

/-- What a run takes from its surroundings. Nothing is known of the reader but that it depends on
the text alone. -/
structure Platform where
  yaml : Text → Except ReadFault Data
  halves : Halves
  pool : Pool

/-- The fault of a text that the reader of this library does not read. -/
def ReadFault.ofYaml (fault : Yaml.Fault) : ReadFault :=
  match fault.cause? with
  | some cause => .broken cause
  | none => .malformed

/-- The surroundings that the program itself comes with. Its reader takes block scalars, anchors,
tags and directives for malformed; its characters for halves are unassigned ones, of which texts have
no other. -/
def Platform.standard : Platform where
  yaml text := (Yaml.read text).mapError .ofYaml
  halves := .standard
  pool := .inOrder

end BlockTree
