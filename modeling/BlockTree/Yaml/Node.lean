import BlockTree.Yaml.Token

/-!
The structure of a text with indentation: lists and mappings of scalars.

* `Node.ofPairs`: a mapping, into which those under the merging name are merged;
* `Node.fault?`: the first scalar without value; outer collections come before inner ones;
* `Node.data`: the value of a node without fault.
-/

namespace BlockTree.Yaml

/-- A scalar, a list, a mapping from nodes to nodes, or a mapping into which something is merged
that is no mapping. -/
inductive Node where
  | scalar (word : Scalar)
  | list (items : List Node)
  | mapping (pairs : List (Node × Node))
  | unmergeable

namespace Node

instance : Inhabited Node := ⟨.unmergeable⟩

/-- The node of nothing. -/
def empty : Node := .scalar (.value .null)

/-! ### Merging -/

/-- The pairs of a mapping. -/
def pairs? : Node → Option (List (Node × Node))
  | .mapping pairs => some pairs
  | _ => none

/-- The pairs that a value under the merging name adds: those of a mapping, or those of a list of
mappings, the last of them first. -/
def merged? : Node → Option (List (Node × Node))
  | .mapping pairs => some pairs
  | .list items => (items.mapM pairs?).map fun lists => lists.reverse.flatten
  | _ => none

/-- The name that a node is: an equals sign is a text. -/
def asName : Node → Node
  | .scalar .equals => .scalar (.value (.str ['=']))
  | node => node

/-- The node is the merging name. -/
def isMerge : Node → Bool
  | .scalar .merge => true
  | _ => false

/-- The mapping of some pairs. What is merged into it comes first. -/
def ofPairs (pairs : List (Node × Node)) : Node :=
  let (merges, own) := pairs.partition fun pair => pair.1.isMerge
  match (merges.map Prod.snd).mapM merged? with
  | none => .unmergeable
  | some lists => .mapping (lists.flatten ++ own.map fun (name, value) => (name.asName, value))

/-! ### Faults -/

/-- The fault of a scalar. -/
def scalarFault? : Node → Option Fault
  | .scalar word => word.fault?
  | _ => none

/-- The fault of a name: a collection is none. -/
def nameFault? : Node → Option Fault
  | .scalar word => word.fault?
  | _ => some .malformed

/-- The first fault in a node, inner collections apart. -/
def ownFault? : Node → Option Fault
  | .scalar word => word.fault?
  | .list items => items.findSome? scalarFault?
  | .mapping pairs => pairs.findSome? fun (name, value) => (nameFault? name).or (scalarFault? value)
  | .unmergeable => some .malformed

/-- The items of a list, or the values of a mapping. -/
def parts : Node → List Node
  | .list items => items
  | .mapping pairs => pairs.map Prod.snd
  | _ => []

/-- The first fault in some nodes of equal depth. The first argument bounds the depth. -/
def faultAmong? : Nat → List Node → Option Fault
  | 0, _ => none
  | fuel + 1, nodes =>
    if nodes.isEmpty then none
    else (nodes.findSome? ownFault?).or (faultAmong? fuel (nodes.flatMap parts))

/-- The first fault in a node whose depth is bounded. -/
def fault? (depth : Nat) (node : Node) : Option Fault :=
  faultAmong? depth [node]

/-! ### Values -/

mutual

/-- The value of a node without fault. -/
def data : Node → Data
  | .scalar word => word.data
  | .list items => .arr (dataOfItems items)
  | .mapping pairs => .ofPairs (dataOfPairs pairs)
  | .unmergeable => .null

/-- The values of items. -/
def dataOfItems : List Node → List Data
  | [] => []
  | item :: rest => item.data :: dataOfItems rest

/-- The names and values of pairs. -/
def dataOfPairs : List (Node × Node) → List (Data × Data)
  | [] => []
  | (name, value) :: rest => (name.data, value.data) :: dataOfPairs rest

end

end Node

end BlockTree.Yaml
