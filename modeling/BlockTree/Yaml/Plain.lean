import BlockTree.Yaml.Cursor

/-!
Plain scalars in a text: where a word without quotation marks starts and ends.

A plain scalar may go on in the following lines, as long as they are indented more than the
collection that it stands in; inside brackets the indentation does not matter.
-/

namespace BlockTree.Yaml

/-- The characters with a meaning inside brackets. -/
def isFlowMark (c : Char) : Bool :=
  c = ',' || c = '[' || c = ']' || c = '\x7b' || c = '\x7d'

/-- The characters that no plain scalar starts with, apart from the three that may. -/
def isIndicator (c : Char) : Bool :=
  isFlowMark c || c = '#' || c = '&' || c = '*' || c = '!' || c = '|' || c = '>' || c = '\x27'
    || c = '"' || c = '%' || c = '@' || c = '\x60'

/-- A plain scalar starts here. -/
def startsPlain (flow : Bool) : Text → Bool
  | [] => false
  | c :: rest =>
    if c = '-' then !atGap rest
    else if c = '?' || c = ':' then !flow && !atGap rest
    else !isGap c && !isIndicator c

/-- The plain scalar ends in front of this text: a tab, a colon that a gap follows, or inside
brackets one of their marks. -/
def endsPlain (flow : Bool) : Text → Bool
  | [] => true
  | c :: rest =>
    c = '\t' || (c = ':' && (atGap rest || (flow && rest.head?.any isFlowMark)))
      || (flow && (isFlowMark c || c = '?'))

/-- The rest of a plain scalar after a gap, where reading it ends, and whether that is on a new
line. The indentation is the least that a further line needs. -/
def readPlain (flow : Bool) (indent : Int) (place : Place) (gap : Gap) :
    Text → Text × Cursor × Bool
  | [] => ([], ⟨place, []⟩, gap.isBroken)
  | c :: rest =>
    if isBreak c then
      if atMarker rest then ([], ⟨place.after c, rest⟩, true)
      else readPlain flow indent (place.after c) (gap.addBreak c) rest
    else if c = ' ' then readPlain flow indent (place.after c) (gap.addBlank c) rest
    else if endsPlain flow (c :: rest)
        || (!gap.isEmpty && (c = '#' || (!flow && place.column < indent))) then
      ([], ⟨place, c :: rest⟩, gap.isBroken)
    else
      let (more, last, fresh) := readPlain flow indent (place.after c) .none rest
      (gap.text ++ c :: more, last, fresh)

end BlockTree.Yaml
