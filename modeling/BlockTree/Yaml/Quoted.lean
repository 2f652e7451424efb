import BlockTree.Yaml.Cursor
import BlockTree.Yaml.Fault

/-!
Scalars between quotation marks.

Between single marks a doubled mark stands for one. Between double marks a backslash starts an
escape, which may name a code point that is no character. Line breaks are folded in both.
-/

namespace BlockTree.Yaml

/-- The rest of a text between single marks after a gap, and the place after the closing mark. -/
def readSingle (place : Place) (gap : Gap) : Text → Except Fault (Text × Cursor)
  | [] => .error .malformed
  | '\x27' :: '\x27' :: rest =>
    (readSingle ((place.after '\x27').after '\x27') .none rest).map fun (s, last) =>
      (gap.text ++ '\x27' :: s, last)
  | c :: rest =>
    if c = '\x27' then .ok (gap.text, ⟨place.after c, rest⟩)
    else if isBreak c then
      if atMarker rest then .error .malformed
      else readSingle (place.after c) (gap.addBreak c) rest
    else if isGap c then readSingle (place.after c) (gap.addBlank c) rest
    else
      (readSingle (place.after c) .none rest).map fun (s, last) => (gap.text ++ c :: s, last)

/-- The code points that the escapes of one letter stand for. -/
def letterEscapes : List (Char × Nat) :=
  [('0', 0), ('a', 7), ('b', 8), ('t', 9), ('\t', 9), ('n', 10), ('v', 11), ('f', 12), ('r', 13),
   ('e', 27), (' ', 32), ('"', 34), ('\\', 92), ('/', 47), ('N', 0x85), ('_', 0xA0), ('L', 0x2028),
   ('P', 0x2029)]

/-- The letters that introduce hexadecimal digits, and how many. -/
def digitEscapes : List (Char × Nat) :=
  [('x', 2), ('u', 4), ('U', 8)]

/-- The fault of a number that is no code point. -/
def codeFault? (n : Nat) : Option Fault :=
  if 0x7FFFFFFF < n then some .hugeCode
  else if 0x10FFFF < n then some .noCharacter
  else none

/-- What is being read between double marks: text after a gap, an escape after its backslash, or
hexadecimal digits, of which some are left. -/
inductive DoubleState where
  | text (gap : Gap)
  | escape
  | digits (left value : Nat)
  deriving DecidableEq, Repr

/-- The code points of the rest of a text between double marks, and the place after the closing
mark. -/
def readDouble (place : Place) (state : DoubleState) : Text → Except Fault (List Nat × Cursor)
  | [] => .error .malformed
  | c :: rest =>
    let next := place.after c
    match state with
    | .digits left value =>
      match Text.hexValue? c with
      | none => .error .malformed
      | some digit =>
        let value := 16 * value + digit
        if 1 < left then readDouble next (.digits (left - 1) value) rest
        else
          match codeFault? value with
          | some fault => .error fault
          | none =>
            (readDouble next (.text .none) rest).map fun (codes, last) => (value :: codes, last)
    | .escape =>
      match letterEscapes.lookup c, digitEscapes.lookup c with
      | some n, _ =>
        (readDouble next (.text .none) rest).map fun (codes, last) => (n :: codes, last)
      | none, some count => readDouble next (.digits count 0) rest
      | none, none =>
        if isBreak c && !atMarker rest then readDouble next (.text (.breaks none [])) rest
        else .error .malformed
    | .text gap =>
      if isBreak c then
        if atMarker rest then .error .malformed
        else readDouble next (.text (gap.addBreak c)) rest
      else if isGap c then readDouble next (.text (gap.addBlank c)) rest
      else
        let before := gap.text.map Char.toNat
        if c = '"' then .ok (before, ⟨next, rest⟩)
        else if c = '\\' then
          (readDouble next .escape rest).map fun (codes, last) => (before ++ codes, last)
        else
          (readDouble next (.text .none) rest).map fun (codes, last) =>
            (before ++ c.toNat :: codes, last)

end BlockTree.Yaml
