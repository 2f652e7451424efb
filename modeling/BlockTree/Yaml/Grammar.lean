import BlockTree.Yaml.Node

/-!
The grammar of texts with indentation: which tokens describe which nodes.

* `Grammar.node`: a scalar, an indented collection, or a collection between brackets;
* `Grammar.document`: the one document of a text, with the marks around it.

A token that cannot come next makes the text malformed. Where a token is missing because a fault has
ended them, that fault counts.
-/

namespace BlockTree.Yaml

/-- A reader of tokens: it takes some of them, or fails. -/
abbrev Grammar := StateT (List Token) (Except Fault)

namespace Grammar

variable (late : Fault)

/-- The next token. -/
def peek : Grammar Token := do
  match ← get with
  | [] => throw late
  | token :: _ => return token

/-- Takes the next token, which has been looked at. -/
def drop : Grammar Unit :=
  modify List.tail

/-- The text is malformed. -/
def fail {α : Type} : Grammar α :=
  throw .malformed

/-! ### Ends -/

/-- The token ends an item of an indented list. -/
def endsItem : Token → Bool
  | .item => true
  | .collectionEnd => true
  | _ => false

/-- The token ends a part of an indented mapping. -/
def endsPart : Token → Bool
  | .key => true
  | .value => true
  | .collectionEnd => true
  | _ => false

/-- The token ends an item of a list that is not indented. -/
def endsLooseItem (token : Token) : Bool :=
  endsItem token || endsPart token

/-- The token ends a part of a pair between brackets. -/
def endsFlowPart : Token → Bool
  | .value => true
  | .comma => true
  | .closeBracket => true
  | .closeBrace => true
  | _ => false

/-- A node, or an empty one if the next token ends it. -/
def orEmpty (ends : Token → Bool) (node : Grammar Node) : Grammar Node := do
  if ends (← peek late) then return .empty else node

/-- A name and a value, the value after a colon; both may be empty. -/
def pair (part : Grammar Node) : Grammar (Node × Node) := do
  let name ← part
  match ← peek late with
  | .value =>
    drop
    return (name, ← part)
  | _ => return (name, .empty)

/-! ### Nodes -/

mutual

/-- A node. Indented collections may be excluded; under a key, the items of a list need not be
indented. The numeral bounds the number of tokens. -/
def node (indented underKey : Bool) : Nat → Grammar Node
  | 0 => fail
  | fuel + 1 => do
    match ← peek late with
    | .scalar word =>
      drop
      return .scalar word
    | .openBracket =>
      drop
      return .list (← flowItems true fuel)
    | .openBrace =>
      drop
      return .ofPairs (← flowPairs true fuel)
    | .item => if underKey then return .list (← looseItems fuel) else fail
    | .listStart =>
      drop
      if indented then return .list (← items fuel) else fail
    | .mappingStart =>
      drop
      if indented then return .ofPairs (← pairs fuel) else fail
    | _ => fail

/-- The items of an indented list. -/
def items : Nat → Grammar (List Node)
  | 0 => fail
  | fuel + 1 => do
    match ← peek late with
    | .item =>
      drop
      let item ← orEmpty late endsItem (node true false fuel)
      return item :: (← items fuel)
    | .collectionEnd =>
      drop
      return []
    | _ => fail

/-- The items of a list that is not indented. -/
def looseItems : Nat → Grammar (List Node)
  | 0 => fail
  | fuel + 1 => do
    match ← peek late with
    | .item =>
      drop
      let item ← orEmpty late endsLooseItem (node true false fuel)
      return item :: (← looseItems fuel)
    | _ => return []

/-- The pairs of an indented mapping. -/
def pairs : Nat → Grammar (List (Node × Node))
  | 0 => fail
  | fuel + 1 => do
    match ← peek late with
    | .key =>
      drop
      let first ← pair late (orEmpty late endsPart (node true true fuel))
      return first :: (← pairs fuel)
    | .collectionEnd =>
      drop
      return []
    | _ => fail

/-- An item between brackets: a node, or a single pair. -/
def flowItem : Nat → Grammar Node
  | 0 => fail
  | fuel + 1 => do
    match ← peek late with
    | .key =>
      drop
      return .ofPairs [← pair late (orEmpty late endsFlowPart (node false false fuel))]
    | _ => node false false fuel

/-- The items of a list between brackets. All but the first follow a comma, and one may be missing
after the last comma. -/
def flowItems (first : Bool) : Nat → Grammar (List Node)
  | 0 => fail
  | fuel + 1 => do
    match ← peek late, first with
    | .closeBracket, _ =>
      drop
      return []
    | .comma, false =>
      drop
      flowItems true fuel
    | _, true =>
      let item ← flowItem fuel
      return item :: (← flowItems false fuel)
    | _, false => fail

/-- A pair between braces; a node without a mark of its own has an empty value. -/
def flowPair : Nat → Grammar (Node × Node)
  | 0 => fail
  | fuel + 1 => do
    match ← peek late with
    | .key =>
      drop
      pair late (orEmpty late endsFlowPart (node false false fuel))
    | _ => return (← node false false fuel, .empty)

/-- The pairs of a mapping between braces. All but the first follow a comma, and one may be missing
after the last comma. -/
def flowPairs (first : Bool) : Nat → Grammar (List (Node × Node))
  | 0 => fail
  | fuel + 1 => do
    match ← peek late, first with
    | .closeBrace, _ =>
      drop
      return []
    | .comma, false =>
      drop
      flowPairs true fuel
    | _, true =>
      let first ← flowPair fuel
      return first :: (← flowPairs false fuel)
    | _, false => fail

end

/-! ### Documents -/

/-- The token cannot begin the contents of a document after its mark. -/
def endsDocument : Token → Bool
  | .documentStart => true
  | .documentEnd => true
  | .textEnd => true
  | _ => false

/-- Nothing but end marks follows. -/
def ending : Nat → Grammar Unit
  | 0 => fail
  | fuel + 1 => do
    match ← peek late with
    | .documentEnd =>
      drop
      ending fuel
    | .textEnd => return ()
    | _ => fail

/-- The one document of a text, empty if there is none. -/
def document (fuel : Nat) : Grammar Node := do
  match ← peek late with
  | .textEnd => return .empty
  | .documentStart =>
    drop
    let content ← orEmpty late endsDocument (node late true false fuel)
    ending late fuel
    return content
  | _ =>
    let content ← node late true false fuel
    ending late fuel
    return content

end Grammar

end BlockTree.Yaml
