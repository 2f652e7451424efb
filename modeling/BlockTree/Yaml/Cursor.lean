import BlockTree.Text.Class

/-!
Places in a text with indentation, and the blanks between its words.

* `Cursor`: a place and the text that follows it; `Cursor.skip` moves over spaces, comments and line
  breaks to the next token;
* `Gap`: blanks and line breaks within a scalar; `Gap.text` is what they stand for.
-/

namespace BlockTree.Yaml

/-- The characters that end a line. -/
def isBreak (c : Char) : Bool :=
  c = '\n' || c.toNat = 0x85 || c.toNat = 0x2028 || c.toNat = 0x2029

/-- The characters that end a word: spaces, tabs and line breaks. -/
def isGap (c : Char) : Bool :=
  c = ' ' || c = '\t' || isBreak c

/-- The text is empty or starts with a gap. -/
def atGap : Text → Bool
  | [] => true
  | c :: _ => isGap c

/-- The text starts with three equal characters and a gap. -/
def atTriple (mark : Char) : Text → Bool
  | a :: b :: c :: rest => a = mark && b = mark && c = mark && atGap rest
  | _ => false

/-- The text starts with the mark of a document's start or end. -/
def atMarker (text : Text) : Bool :=
  atTriple '-' text || atTriple '.' text

/-! ### Places -/

/-- A place, by the characters and the lines before it, and its column. -/
structure Place where
  index : Nat
  line : Nat
  column : Nat
  deriving DecidableEq, Repr

/-- The place after a character. A byte order mark takes up no column. -/
def Place.after (place : Place) (c : Char) : Place :=
  if isBreak c then ⟨place.index + 1, place.line + 1, 0⟩
  else ⟨place.index + 1, place.line, if c.toNat = 0xFEFF then place.column else place.column + 1⟩

/-- A place in a text, and what follows it. -/
structure Cursor where
  place : Place
  rest : Text
  deriving DecidableEq, Repr

namespace Cursor

/-- The cursor at the start of a text. A byte order mark there is passed over. -/
def start (text : Text) : Cursor :=
  match text with
  | [] => ⟨⟨0, 0, 0⟩, []⟩
  | c :: rest => if c.toNat = 0xFEFF then ⟨⟨1, 0, 0⟩, rest⟩ else ⟨⟨0, 0, 0⟩, c :: rest⟩

/-- The cursor after so many characters. -/
def advance (cursor : Cursor) : Nat → Cursor
  | 0 => cursor
  | count + 1 =>
    match cursor.rest with
    | [] => cursor
    | c :: rest => advance ⟨cursor.place.after c, rest⟩ count

/-- Moves to the next token from a place. The flags say whether a comment is being skipped and
whether a line break was. -/
def skipFrom (place : Place) (comment fresh : Bool) : Text → Cursor × Bool
  | [] => (⟨place, []⟩, fresh)
  | c :: rest =>
    if isBreak c then skipFrom (place.after c) false true rest
    else if comment || c = ' ' then skipFrom (place.after c) comment fresh rest
    else if c = '#' then skipFrom (place.after c) true fresh rest
    else (⟨place, c :: rest⟩, fresh)

/-- The next token, and whether a line break lies before it. -/
def skip (cursor : Cursor) : Cursor × Bool :=
  skipFrom cursor.place false false cursor.rest

end Cursor

/-! ### Gaps -/

/-- What stands between two words of a scalar: blanks on one line, or line breaks, of which the
first one counts for itself unless an escape takes it away. Both lists are kept in reverse. -/
inductive Gap where
  | blanks (back : Text)
  | breaks (first : Option Char) (back : Text)
  deriving DecidableEq, Repr

namespace Gap

/-- Nothing between two characters. -/
def none : Gap := .blanks []

/-- The gap holds a line break. -/
def isBroken : Gap → Bool
  | .blanks _ => false
  | .breaks _ _ => true

/-- Nothing stands between the words. -/
def isEmpty : Gap → Bool
  | .blanks back => back.isEmpty
  | .breaks _ _ => false

/-- A line break as it is kept: the two separators of Unicode as they are, others as a line feed. -/
def keptBreak (c : Char) : Char :=
  if c.toNat = 0x2028 || c.toNat = 0x2029 then c else '\n'

/-- The gap with one more blank. Blanks around line breaks do not count. -/
def addBlank (gap : Gap) (c : Char) : Gap :=
  match gap with
  | .blanks back => .blanks (c :: back)
  | broken => broken

/-- The gap with one more line break. -/
def addBreak (gap : Gap) (c : Char) : Gap :=
  match gap with
  | .blanks _ => .breaks (keptBreak c) []
  | .breaks first back => .breaks first (keptBreak c :: back)

/-- What a gap stands for. A line feed that comes first is a space if it is alone, else nothing; all
other breaks stay. -/
def text : Gap → Text
  | .blanks back => back.reverse
  | .breaks Option.none back => back.reverse
  | .breaks (some c) back =>
    if c ≠ '\n' then c :: back.reverse
    else if back.isEmpty then [' ']
    else back.reverse

end Gap

end BlockTree.Yaml
