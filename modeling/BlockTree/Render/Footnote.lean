import BlockTree.Render.Leaf

/-!
Footnotes: the return link at the end of a note, and the list of notes.

* `Note.linked`: the paragraph that takes the return link, and the blocks in front of it;
* `Note.withReturnLink`: the blocks of a note with the link in place; `Note.appendReturnLink` also
  says when there are none.
-/

namespace BlockTree

/-- The blocks of a note up to the paragraph that holds the return link, and that paragraph. -/
structure LinkedNote where
  front : List Block
  head : Head
  lines : List Text

namespace Note

/-- The link goes to the end of the last line if the last block is a paragraph with lines, else into
a paragraph of its own. -/
def linked (note : Note) : LinkedNote :=
  let link := Markup.returnLink note.number
  match note.blocks.getLast? with
  | some (.para head lines) =>
    match lines.getLast? with
    | some line => ⟨note.blocks.dropLast, head, lines.dropLast ++ [line ++ "&nbsp;" ++ link]⟩
    | none => ⟨note.blocks, {}, [link]⟩
  | _ => ⟨note.blocks, {}, [link]⟩

/-- The blocks of a note with its return link. -/
def withReturnLink (note : Note) : List Block :=
  note.linked.front ++ [.para note.linked.head note.linked.lines]

/-- The blocks of a note with its return link, if its number can be written. -/
def appendReturnLink (note : Note) : Except Fault (List Block) :=
  if Text.isWritable note.number then .ok note.withReturnLink
  else .error (.other (.badValue Text.tooLongToWrite))

/-- The head of the list item of a note: its identifier names the note. -/
def itemHead (note : Note) : Head :=
  { attributes := .written ("#" ++ Markup.noteId note.number) }

theorem front_prefix (note : Note) : note.linked.front <+: note.blocks := by
  unfold linked
  simp only
  split
  · split
    · exact List.dropLast_prefix _
    · exact List.prefix_refl _
  · exact List.prefix_refl _

end Note

/-- The markup around the list of notes. -/
def footnotesHtml (list : Text) : Text :=
  Text.join "\n" ["<div class=\"footnotes\">", "<hr>", list, "</div>"]

end BlockTree
