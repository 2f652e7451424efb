import BlockTree.Render.Footnote
import BlockTree.Render.Table

/-!
Rendering of blocks to markup and messages.

* `Context.container`: markup around rendered children, whose attributes are read after them;
* `renderBlock`: one block;
* `renderEach`: the renderings of siblings, before any of them is evaluated;
* `renderBlocks`: siblings as the context dispatches them.

`renderNotes_eq` says that a note is rendered like a list item with the linked blocks of the note.
-/

namespace BlockTree

/-- The markup of a block quotation. -/
def quoteHtml (content : Text) : Text :=
  "<blockquote>" ++ content ++ "</blockquote>\n"

/-- The markup of a list. -/
def listHtml (kind : ListKind) (content : Text) : Text :=
  "<" ++ kind.word ++ ">\n" ++ content ++ "</" ++ kind.word ++ ">\n"

/-! ### Tight items -/

/-- What follows a paragraph tag, opening or closing, at the start of a text. -/
def paragraphTag? (text : Text) : Option Text :=
  let name := (text.after? "</p").or (text.after? "<p")
  name.bind fun rest =>
    match rest with
    | '>' :: after => some after
    | c :: rest =>
      if Text.isBlank c then
        match rest.dropWhile (· ≠ '>') with
        | _ :: after => some after
        | [] => none
      else none
    | [] => none

theorem paragraphTag?_length {text after : Text} (h : paragraphTag? text = some after) :
    after.length < text.length := by
  unfold paragraphTag? at h
  obtain ⟨rest, hr, h⟩ := Option.bind_eq_some_iff.1 h
  have hlt : rest.length < text.length := by
    rw [Option.or_eq_some_iff] at hr
    obtain hr | ⟨-, hr⟩ := hr
    · rw [Text.after?_eq_some.1 hr, List.length_append]
      exact Nat.lt_add_of_pos_left (by decide)
    · rw [Text.after?_eq_some.1 hr, List.length_append]
      exact Nat.lt_add_of_pos_left (by decide)
  split at h
  · simp only [Option.some.injEq] at h
    subst h
    simp only [List.length_cons] at hlt
    omega
  · rename_i c inner _
    have hle := (List.dropWhile_suffix (l := inner) (· ≠ '>')).length_le
    split at h
    · split at h
      · rename_i hd
        simp only [Option.some.injEq] at h
        subst h
        simp only [hd, List.length_cons] at hle hlt
        omega
      · simp at h
    · simp at h
  · simp at h

/-- The text without its paragraph tags. -/
def dropParagraphTags (text : Text) : Text :=
  match text with
  | [] => []
  | c :: rest =>
    match _ : paragraphTag? (c :: rest) with
    | some after => dropParagraphTags after
    | none => c :: dropParagraphTags rest
termination_by text.length
decreasing_by
  · exact paragraphTag?_length (by assumption)
  · simp

/-- An item is tight if it has a single child and is not spaced. -/
def isTight (spaced : Bool) (count : Nat) : Bool :=
  count = 1 && !spaced

/-- The markup of a list item; a tight one loses its paragraph tags. -/
def itemHtml (tight : Bool) (content : Text) : Text :=
  "<li>" ++ (if tight then dropParagraphTags content else content) ++ "</li>\n"

/-! ### Blocks -/

namespace Context

/-- A block around other blocks: its children first, then its attributes. -/
def container (ctx : Context) (head : Head) (around : Text → Text)
    (children : List (RenderM Part)) : RenderM Rendered :=
  ctx.renderSiblings children >>= ctx.wrap head around

/-- A block quotation. -/
def quote (ctx : Context) (head : Head) (children : List (RenderM Part)) : RenderM Rendered :=
  ctx.container head quoteHtml children

/-- A list. -/
def list (ctx : Context) (head : Head) (kind : ListKind) (children : List (RenderM Part)) :
    RenderM Rendered :=
  ctx.container head (listHtml kind) children

/-- A list item. -/
def item (ctx : Context) (head : Head) (spaced : Bool) (children : List (RenderM Part)) :
    RenderM Rendered :=
  ctx.container head (itemHtml (isTight spaced children.length)) children

/-- The list of footnotes, from their numbers and the renderings of its items. All numbers are
written before the first item is rendered. -/
def footnotes (ctx : Context) (numbers : List Int) (items : List (RenderM Part)) :
    RenderM Rendered := do
  if numbers.all Text.isWritable then
    let list ← ctx.list {} .numbered items
    pure ⟨footnotesHtml list.html, list.messages⟩
  else throw (.other (.badValue Text.tooLongToWrite))

/-- A note as a list item. The children are the renderings of its own blocks. -/
def note (ctx : Context) (note : Note) (children : List (RenderM Part)) : RenderM Rendered :=
  ctx.item note.itemHead true
    (children.take note.linked.front.length
      ++ [Rendered.part <$> ctx.paragraph note.linked.head note.linked.lines])

end Context

mutual

/-- Renders a block. -/
def renderBlock (ctx : Context) : Block → RenderM Part
  | .para head lines => Rendered.part <$> ctx.paragraph head lines
  | .heading head level content => Rendered.part <$> ctx.heading head level content
  | .quote head blocks => Rendered.part <$> ctx.quote head (renderEach ctx blocks)
  | .code head lines language => Rendered.part <$> ctx.code head lines language
  | .ruler head mark => Rendered.part <$> ctx.ruler head mark
  | .list head kind blocks => Rendered.part <$> ctx.list head kind (renderEach ctx blocks)
  | .item head _ blocks spaced => Rendered.part <$> ctx.item head spaced (renderEach ctx blocks)
  | .table head grid => Rendered.part <$> ctx.table head grid
  | .html _ lines => pure ⟨.text (Text.join "\n" lines), []⟩
  | .htmlOther _ lines => pure ⟨.text (Text.join "\n" lines), []⟩
  | .footnotes _ notes =>
    Rendered.part <$> ctx.footnotes (notes.map Note.number) (renderNotes ctx notes)
  | .attributeList _ content => pure (ctx.attributeList content).part
  | .linkTarget _ _ _ _ => pure ⟨.text [], []⟩
  | .plugin _ lines handler => handler.call lines
  | .foreign typeName => throw (.render (.unknownBlock typeName))

/-- The renderings of siblings. -/
def renderEach (ctx : Context) : List Block → List (RenderM Part)
  | [] => []
  | block :: rest => renderBlock ctx block :: renderEach ctx rest

/-- The renderings of notes as list items. -/
def renderNotes (ctx : Context) : List Note → List (RenderM Part)
  | [] => []
  | .mk id number blocks :: rest =>
    (Rendered.part <$> ctx.note (.mk id number blocks) (renderEach ctx blocks))
      :: renderNotes ctx rest

end

/-- Renders siblings. -/
def renderBlocks (ctx : Context) (blocks : List Block) : RenderM Rendered :=
  ctx.renderSiblings (renderEach ctx blocks)

/-- Renders siblings from an empty journal: the result, and the notes that handlers took. -/
def render (ctx : Context) (blocks : List Block) : Except Fault Rendered × Journal :=
  renderBlocks ctx blocks []

/-! ### Laws -/

theorem renderEach_eq_map (ctx : Context) (blocks : List Block) :
    renderEach ctx blocks = blocks.map (renderBlock ctx) := by
  induction blocks with
  | nil => rfl
  | cons block rest ih => rw [renderEach, ih, List.map_cons]

/-- A note is rendered like a list item with the linked blocks of the note. -/
theorem note_eq (ctx : Context) (note : Note) :
    ctx.note note (renderEach ctx note.blocks)
      = ctx.item note.itemHead true (renderEach ctx note.withReturnLink) := by
  have h : (note.blocks.map (renderBlock ctx)).take note.linked.front.length
      = note.linked.front.map (renderBlock ctx) := by
    obtain ⟨rest, hr⟩ := note.front_prefix
    rw [← hr, List.map_append, List.take_left' (by simp)]
  rw [Context.note, renderEach_eq_map, renderEach_eq_map, h, Note.withReturnLink, List.map_append]
  rfl

theorem renderNotes_eq (ctx : Context) (notes : List Note) :
    renderNotes ctx notes
      = notes.map fun note =>
          Rendered.part <$> ctx.item note.itemHead true (renderEach ctx note.withReturnLink) := by
  induction notes with
  | nil => rfl
  | cons note rest ih =>
    obtain ⟨id, number, blocks⟩ := note
    rw [renderNotes, ih, List.map_cons, ← note_eq]
    rfl

end BlockTree
