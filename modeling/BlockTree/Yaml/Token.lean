import BlockTree.Yaml.Plain
import BlockTree.Yaml.Quoted
import BlockTree.Yaml.Scalar

/-!
Tokens of a text with indentation.

The start of a key is only known at the colon after it. So each token that may start a key is kept
in mind as a `Candidate`; when its colon comes, the tokens that introduce the key are put in front
of it. `Lexer.tokens` gives the tokens of a text, and the fault that ends them if there is one:
those that may still start a key at the fault are not given.
-/

namespace BlockTree.Yaml

/-- The tokens: scalars, marks, and the starts and ends of indented collections. -/
inductive Token where
  | documentStart
  | documentEnd
  | textEnd
  | listStart
  | mappingStart
  | collectionEnd
  | item
  | key
  | value
  | openBracket
  | closeBracket
  | openBrace
  | closeBrace
  | comma
  | scalar (scalar : Scalar)

/-- A token that may start a key: its number among the tokens, its place, and whether a colon has to
follow. -/
structure Candidate where
  token : Nat
  place : Place
  required : Bool
  deriving DecidableEq, Repr

/-- The state between two tokens. Tokens are kept in reverse, each with those that introduce it;
there is a candidate at most for every level of brackets, the innermost first; the columns are those
of the indented collections, the innermost first. -/
structure Lexer where
  cursor : Cursor
  written : List (List Token × Token)
  count : Nat
  candidates : List (Option Candidate)
  columns : List Nat
  keysAllowed : Bool
  finished : Bool

namespace Lexer

/-- The state at the start of a text. -/
def start (text : Text) : Lexer where
  cursor := .start text
  written := []
  count := 0
  candidates := [none]
  columns := []
  keysAllowed := true
  finished := false

/-- The place is inside brackets. -/
def inBrackets (lexer : Lexer) : Bool :=
  1 < lexer.candidates.length

/-- The column of the place. -/
def column (lexer : Lexer) : Nat :=
  lexer.cursor.place.column

/-- The column of the innermost indented collection, or one in front of all columns. -/
def indent (lexer : Lexer) : Int :=
  match lexer.columns with
  | [] => -1
  | column :: _ => column

/-- Adds a token. -/
def add (lexer : Lexer) (token : Token) : Lexer :=
  { lexer with written := ([], token) :: lexer.written, count := lexer.count + 1 }

/-- Adds a token of so many characters. -/
def take (lexer : Lexer) (length : Nat) (token : Token) : Lexer :=
  { lexer.add token with cursor := lexer.cursor.advance length }

/-- Ends the indented collections to the right of a column. Inside brackets there are none. -/
def unwind (lexer : Lexer) (column : Int) : Lexer :=
  if lexer.inBrackets then lexer
  else
    let (ended, columns) := lexer.columns.span fun c => column < Int.ofNat c
    ended.foldl (fun lexer _ => lexer.add .collectionEnd) { lexer with columns }

/-! ### Candidates -/

/-- A key and its colon lie on one line, and no more than this number of characters apart. -/
def keyLimit : Nat := 1024

/-- The token can no longer start a key. -/
def isStale (cursor : Cursor) (candidate : Candidate) : Bool :=
  candidate.place.line ≠ cursor.place.line
    || keyLimit < cursor.place.index - candidate.place.index

/-- Gives up every candidate that can no longer start a key. -/
def dropStale (lexer : Lexer) : Except Fault Lexer :=
  let isStale (candidate : Candidate) := isStale lexer.cursor candidate
  if lexer.candidates.any fun c => c.any fun c => c.required && isStale c then .error .malformed
  else .ok { lexer with candidates := lexer.candidates.map fun c => c.filter (!isStale ·) }

/-- Gives up the candidate of the innermost level. -/
def dropCandidate (lexer : Lexer) : Except Fault Lexer :=
  match lexer.candidates with
  | some candidate :: outer =>
    if candidate.required then .error .malformed
    else .ok { lexer with candidates := none :: outer }
  | _ => .ok lexer

/-- The next token may start a key, if keys are allowed here. -/
def mayStartKey (lexer : Lexer) : Except Fault Lexer :=
  if lexer.keysAllowed then do
    let required := !lexer.inBrackets && lexer.indent = lexer.column
    let candidate : Candidate := ⟨lexer.count, lexer.cursor.place, required⟩
    let lexer ← lexer.dropCandidate
    return { lexer with candidates := some candidate :: lexer.candidates.tail }
  else return lexer

/-! ### Marks -/

/-- An indented collection starts at a column, unless it has started there before. -/
def opens (lexer : Lexer) (column : Nat) : Bool :=
  !lexer.inBrackets && lexer.indent < column

/-- Starts an indented collection at the place, unless it has started there before. -/
def openHere (lexer : Lexer) (token : Token) : Lexer :=
  if lexer.opens lexer.column then
    { lexer.add token with columns := lexer.column :: lexer.columns }
  else lexer

/-- The mark of a document's start or end. -/
def documentMark (lexer : Lexer) (token : Token) : Except Fault Lexer := do
  let lexer ← (lexer.unwind (-1)).dropCandidate
  return { lexer.take 3 token with keysAllowed := false }

/-- An opening bracket, which may start a key. -/
def openMark (lexer : Lexer) (token : Token) : Except Fault Lexer := do
  let lexer ← lexer.mayStartKey
  return { lexer.take 1 token with
    candidates := none :: lexer.candidates
    keysAllowed := true }

/-- A closing bracket, which needs an opening one. -/
def closeMark (lexer : Lexer) (token : Token) : Except Fault Lexer := do
  let lexer ← lexer.dropCandidate
  if lexer.inBrackets then
    return { lexer.take 1 token with
      candidates := lexer.candidates.tail
      keysAllowed := false }
  else throw .malformed

/-- A comma. -/
def commaMark (lexer : Lexer) : Except Fault Lexer := do
  let lexer ← lexer.dropCandidate
  return { lexer.take 1 .comma with keysAllowed := true }

/-- The dash of an item. -/
def itemMark (lexer : Lexer) : Except Fault Lexer := do
  if !lexer.inBrackets && !lexer.keysAllowed then throw .malformed
  else
    let lexer ← (lexer.openHere .listStart).dropCandidate
    return { lexer.take 1 .item with keysAllowed := true }

/-- The mark in front of a key. -/
def keyMark (lexer : Lexer) : Except Fault Lexer := do
  if !lexer.inBrackets && !lexer.keysAllowed then throw .malformed
  else
    let lexer ← (lexer.openHere .mappingStart).dropCandidate
    return { lexer.take 1 .key with keysAllowed := !lexer.inBrackets }

/-- The colon after a candidate, which starts a key. -/
def colonAfter (lexer : Lexer) (candidate : Candidate) : Lexer :=
  let column := candidate.place.column
  let opening := lexer.opens column
  let lead : List Token := if opening then [.mappingStart, .key] else [.key]
  { lexer.take 1 .value with
    written := ([], .value)
      :: lexer.written.modify (lexer.count - 1 - candidate.token) fun entry => (lead, entry.2)
    candidates := none :: lexer.candidates.tail
    columns := if opening then column :: lexer.columns else lexer.columns
    keysAllowed := false }

/-- A colon. Without a candidate, its key has a mark of its own or is empty. -/
def colonMark (lexer : Lexer) : Except Fault Lexer :=
  match lexer.candidates with
  | some candidate :: _ => .ok (lexer.colonAfter candidate)
  | _ =>
    if !lexer.inBrackets && !lexer.keysAllowed then .error .malformed
    else
      .ok { (lexer.openHere .mappingStart).take 1 .value with keysAllowed := !lexer.inBrackets }

/-! ### Scalars -/

/-- A scalar, which may start a key, and where it ends. Keys are allowed after a plain scalar that
ends on a new line. -/
def scalarToken (lexer : Lexer) (read : Lexer → Except Fault (Scalar × Cursor × Bool)) :
    Except Fault Lexer := do
  let lexer ← lexer.mayStartKey
  let (scalar, cursor, fresh) ← read lexer
  return { lexer.add (.scalar scalar) with cursor, keysAllowed := fresh }

/-- A scalar between single marks. -/
def singleToken (lexer : Lexer) : Except Fault Lexer :=
  lexer.scalarToken fun lexer =>
    let opened := lexer.cursor.advance 1
    (readSingle opened.place .none opened.rest).map fun (text, cursor) =>
      (.value (.str text), cursor, false)

/-- A scalar between double marks. -/
def doubleToken (lexer : Lexer) : Except Fault Lexer :=
  lexer.scalarToken fun lexer =>
    let opened := lexer.cursor.advance 1
    (readDouble opened.place (.text .none) opened.rest).map fun (codes, cursor) =>
      (.value (.ofCodes .standard codes), cursor, false)

/-- A plain scalar. -/
def plainToken (lexer : Lexer) : Except Fault Lexer :=
  lexer.scalarToken fun lexer =>
    let (word, cursor, fresh) :=
      readPlain lexer.inBrackets (lexer.indent + 1) lexer.cursor.place .none lexer.cursor.rest
    .ok (.ofPlain word, cursor, fresh)

/-! ### Texts -/

/-- The end of the text. -/
def finish (lexer : Lexer) : Except Fault Lexer := do
  let lexer ← (lexer.unwind (-1)).dropCandidate
  return { lexer.add .textEnd with candidates := [], finished := true }

/-- The token at the place. -/
def tokenHere (lexer : Lexer) : Except Fault Lexer :=
  let text := lexer.cursor.rest
  let gapFollows := atGap text.tail
  match text with
  | [] => lexer.finish
  | c :: _ =>
    if lexer.column = 0 && atTriple '-' text then lexer.documentMark .documentStart
    else if lexer.column = 0 && atTriple '.' text then lexer.documentMark .documentEnd
    else if c = '[' then lexer.openMark .openBracket
    else if c = '\x7b' then lexer.openMark .openBrace
    else if c = ']' then lexer.closeMark .closeBracket
    else if c = '\x7d' then lexer.closeMark .closeBrace
    else if c = ',' then lexer.commaMark
    else if c = '-' && gapFollows then lexer.itemMark
    else if c = '?' && (lexer.inBrackets || gapFollows) then lexer.keyMark
    else if c = ':' && (lexer.inBrackets || gapFollows) then lexer.colonMark
    else if c = '\x27' then lexer.singleToken
    else if c = '"' then lexer.doubleToken
    else if startsPlain lexer.inBrackets text then lexer.plainToken
    else .error .malformed

/-- Reads the next token. On a new line outside brackets keys are allowed. -/
def step (lexer : Lexer) : Except Fault Lexer := do
  let (cursor, fresh) := lexer.cursor.skip
  let keysAllowed := lexer.keysAllowed || (fresh && !lexer.inBrackets)
  let lexer ← { lexer with cursor, keysAllowed }.dropStale
  (lexer.unwind lexer.column).tokenHere

/-- The tokens in front of the first one that may still start a key. -/
def settled (lexer : Lexer) : List Token :=
  let undecided := lexer.candidates.filterMap fun c => c.map Candidate.token
  let count := undecided.foldl min lexer.count
  (lexer.written.reverse.take count).flatMap fun (lead, token) => lead ++ [token]

/-- The tokens from a state on. The first argument bounds their number. -/
def run : Nat → Lexer → List Token × Option Fault
  | 0, lexer => (lexer.settled, some .malformed)
  | fuel + 1, lexer =>
    if lexer.finished then (lexer.settled, none)
    else
      match lexer.dropStale with
      | .error fault => (lexer.settled, some fault)
      | .ok lexer =>
        match lexer.step with
        | .error fault => (lexer.settled, some fault)
        | .ok next => run fuel next

/-- The tokens of a text, and the fault that ends them. -/
def tokens (text : Text) : List Token × Option Fault :=
  (start text).run (text.length + 2)

end Lexer

end BlockTree.Yaml
