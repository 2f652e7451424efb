import BlockTree.Inline.Converter
import BlockTree.Proofs.Escaping
import BlockTree.Proofs.Nesting

/-!
What inline markup is made of.

* `Inline.Tag`: the tags of the inline elements, one per opening and closing; `strong_eq`, `link_eq`
  and the like say which tags stand around the body of an element.
* `Inline.Piece`: inert text, a tag of an element, or a tag as it was written. `Piece.Legal` is what
  is asked of a piece: all text inside a tag of an element is inert, and a written tag stands in a
  line.
* `Inline.Composed`: a text that legal pieces make up; `Composed.append` puts such texts together.
* `Piece.Legal.hasTags`: the tags of a legal piece are those that it says it has, so that inert text
  never gives rise to one.
-/

namespace BlockTree.Inline

open Entity (isInert)
open Inline.Span (isTagChar)

/-! ### Tags of elements -/

/-- The elements for emphasised text. -/
inductive EmphasisKind where
  | strong
  | struck
  | emphasis
  deriving DecidableEq, Repr

/-- The name of the element. -/
def EmphasisKind.name : EmphasisKind → Text
  | .strong => "strong"
  | .struck => "del"
  | .emphasis => "em"

/-- A tag that belongs to an inline element. -/
inductive Tag where
  | opens (kind : EmphasisKind)
  | closes (kind : EmphasisKind)
  | opensCode
  | closesCode
  | opensLink (address : Text) (title : Option Text)
  | opensReference (number : Int)
  | closesLink
  | image (path alternative : Text) (title : Option Text)
  | lineBreak
  deriving DecidableEq, Repr

namespace Tag

/-- What stands between `<` and `>`. -/
def inside : Tag → Text
  | .opens kind => kind.name
  | .closes kind => '/' :: kind.name
  | .opensCode => "code class=\"inline\""
  | .closesCode => "/code"
  | .opensLink address title => "a href=\"" ++ address ++ "\"" ++ Markup.titleAttribute title
  | .opensReference number =>
    "a href=\"#" ++ Markup.noteId number ++ "\" id=\"" ++ Markup.referenceId number
      ++ "\" class=\"footnote\" title=\"see footnote\""
  | .closesLink => "/a"
  | .image path alternative title =>
    "img src=\"" ++ path ++ "\" alt=\"" ++ alternative ++ "\"" ++ Markup.titleAttribute title ++ "/"
  | .lineBreak => "br/"

/-- The text of a tag. -/
def source (tag : Tag) : Text :=
  tagged tag.inside []

/-- The texts in a tag that do not follow from its kind: addresses, paths, texts for images, titles
and footnote numbers. -/
def values : Tag → List Text
  | .opensLink address title => address :: title.toList
  | .opensReference number => [Text.integer number]
  | .image path alternative title => path :: alternative :: title.toList
  | _ => []

/-- All values in a tag are inert. -/
def IsInert (tag : Tag) : Prop :=
  ∀ value ∈ tag.values, ∀ c ∈ value, isInert c = true

end Tag

/-! ### Elements -/

lemma element_eq (name body : Text) :
    Markup.element name body = tagged name [] ++ body ++ tagged ('/' :: name) [] := by
  simp [Markup.element, tagged]

lemma strong_eq (body : Text) :
    Markup.strong body = (Tag.opens .strong).source ++ body ++ (Tag.closes .strong).source :=
  element_eq _ body

lemma struck_eq (body : Text) :
    Markup.struck body = (Tag.opens .struck).source ++ body ++ (Tag.closes .struck).source :=
  element_eq _ body

lemma emphasis_eq (body : Text) :
    Markup.emphasis body = (Tag.opens .emphasis).source ++ body ++ (Tag.closes .emphasis).source :=
  element_eq _ body

lemma code_eq (body : Text) :
    Markup.code body = Tag.opensCode.source ++ body ++ Tag.closesCode.source := by
  show Markup.code body = tagged "code class=\"inline\"" [] ++ body ++ tagged "/code" []
  unfold Markup.code
  simp [tagged]

lemma link_eq (address body : Text) (title : Option Text) :
    Markup.link address body title
      = (Tag.opensLink address title).source ++ body ++ Tag.closesLink.source := by
  show Markup.link address body title
    = tagged ("a href=\"" ++ address ++ "\"" ++ Markup.titleAttribute title) [] ++ body
      ++ tagged "/a" []
  unfold Markup.link
  generalize Markup.titleAttribute title = words
  simp [tagged]

lemma image_eq (path alternative : Text) (title : Option Text) :
    Markup.image path alternative title = (Tag.image path alternative title).source := by
  show Markup.image path alternative title
    = tagged ("img src=\"" ++ path ++ "\" alt=\"" ++ alternative ++ "\""
        ++ Markup.titleAttribute title ++ "/") []
  unfold Markup.image
  generalize Markup.titleAttribute title = words
  simp [tagged]

lemma footnoteReference_eq (number : Int) :
    Markup.footnoteReference (Markup.noteId number) (Markup.referenceId number) number
      = (Tag.opensReference number).source ++ Text.integer number ++ Tag.closesLink.source := by
  show Markup.footnoteReference (Markup.noteId number) (Markup.referenceId number) number
    = tagged ("a href=\"#" ++ Markup.noteId number ++ "\" id=\"" ++ Markup.referenceId number
        ++ "\" class=\"footnote\" title=\"see footnote\"") [] ++ Text.integer number
      ++ tagged "/a" []
  unfold Markup.footnoteReference
  generalize Markup.noteId number = target
  generalize Markup.referenceId number = back
  generalize Text.integer number = digits
  simp [tagged]

lemma lineBreak_eq : Markup.lineBreak = Tag.lineBreak.source := by decide

/-! ### Inert tags -/

lemma isTagChar_of_isInert {c : Char} (h : isInert c = true) : isTagChar c = true := by
  rw [isInert, Bool.and_eq_true, Bool.and_eq_true] at h
  exact h.1.1

lemma isTagChar_of_isAlpha {c : Char} (h : c.isAlpha = true) : isTagChar c = true := by
  have hopening : c ≠ '<' := Text.ne_of_class h rfl
  have hclosing : c ≠ '>' := Text.ne_of_class h rfl
  simp [isTagChar, hopening, hclosing]

lemma isInert_of_mem_integer {n : Int} {c : Char} (h : c ∈ Text.integer n) : isInert c = true := by
  rcases Text.mem_integer h with rfl | h
  · decide
  · have hne : ∀ d : Char, d.isDigit = false → c ≠ d := fun d => Text.ne_of_class h
    simp [isInert, hne '<' rfl, hne '>' rfl, hne '"' rfl, hne '\x27' rfl]

lemma isTagChar_of_mem_titleAttribute {title : Option Text}
    (h : ∀ words ∈ title, ∀ c ∈ words, isInert c = true) :
    ∀ c ∈ Markup.titleAttribute title, isTagChar c = true := by
  cases title with
  | none => exact nofun
  | some words =>
      show ∀ c ∈ " title=\"".toList ++ words ++ "\"".toList, isTagChar c = true
      simp only [List.forall_mem_append]
      exact ⟨⟨by decide, fun c hc => isTagChar_of_isInert (h words rfl c hc)⟩, by decide⟩

/-- An inert tag has no `<` and no `>` inside. -/
lemma Tag.IsInert.isTagChar {tag : Tag} (h : tag.IsInert) :
    ∀ c ∈ tag.inside, Span.isTagChar c = true := by
  have hvalue : ∀ value ∈ tag.values, ∀ c ∈ value, Span.isTagChar c = true :=
    fun value hv c hc => isTagChar_of_isInert (h value hv c hc)
  cases tag with
  | opens kind => cases kind <;> decide
  | closes kind => cases kind <;> decide
  | opensCode => decide
  | closesCode => decide
  | closesLink => decide
  | lineBreak => decide
  | opensLink address title =>
      show ∀ c ∈ "a href=\"".toList ++ address ++ "\"".toList ++ Markup.titleAttribute title,
        Span.isTagChar c = true
      have htitle : ∀ words ∈ title, ∀ c ∈ words, isInert c = true := fun words hw =>
        h words (List.mem_cons_of_mem _ (Option.mem_toList.mpr hw))
      simp only [List.forall_mem_append]
      exact ⟨⟨⟨by decide, hvalue address List.mem_cons_self⟩, by decide⟩,
        isTagChar_of_mem_titleAttribute htitle⟩
  | opensReference number =>
      show ∀ c ∈ "a href=\"#".toList ++ ("fn:".toList ++ Text.integer number) ++ "\" id=\"".toList
        ++ ("fnref:".toList ++ Text.integer number)
        ++ "\" class=\"footnote\" title=\"see footnote\"".toList, Span.isTagChar c = true
      have hnumber := hvalue _ List.mem_cons_self
      simp only [List.forall_mem_append]
      exact ⟨⟨⟨⟨by decide, by decide, hnumber⟩, by decide⟩, by decide, hnumber⟩, by decide⟩
  | image path alternative title =>
      show ∀ c ∈ "img src=\"".toList ++ path ++ "\" alt=\"".toList ++ alternative ++ "\"".toList
        ++ Markup.titleAttribute title ++ "/".toList, Span.isTagChar c = true
      have htitle : ∀ words ∈ title, ∀ c ∈ words, isInert c = true := fun words hw =>
        h words (List.mem_cons_of_mem _ (List.mem_cons_of_mem _ (Option.mem_toList.mpr hw)))
      have halternative := hvalue alternative (List.mem_cons_of_mem _ List.mem_cons_self)
      simp only [List.forall_mem_append]
      exact ⟨⟨⟨⟨⟨⟨by decide, hvalue path List.mem_cons_self⟩, by decide⟩, halternative⟩, by decide⟩,
        isTagChar_of_mem_titleAttribute htitle⟩, by decide⟩

/-! ### Pieces -/

/-- What stands inside a tag that was written: an optional slash, an ASCII letter, and whatever has
neither `<` nor `>` in it. -/
def IsWrittenTag (inside : Text) : Prop :=
  ∃ slash letter rest, inside = slash ++ letter :: rest ∧ (slash = [] ∨ slash = ['/'])
    ∧ letter.isAlpha = true ∧ ∀ c ∈ rest, isTagChar c = true

/-- A piece of inline markup: text, a tag of an element, or a tag as it was written. -/
inductive Piece where
  | text (words : Text)
  | markup (tag : Tag)
  | written (inside : Text)
  deriving DecidableEq, Repr

namespace Piece

/-- The text of a piece. -/
def source : Piece → Text
  | .text words => words
  | .markup tag => tag.source
  | .written inside => tagged inside []

/-- The tags of a piece, without `<` and `>`. -/
def tags : Piece → List Text
  | .text _ => []
  | .markup tag => [tag.inside]
  | .written inside => [inside]

/-- **A legal piece**: text is inert, as are all values in a tag of an element; a written tag stands
in one of the lines. -/
def Legal (lines : List Text) : Piece → Prop
  | .text words => ∀ c ∈ words, isInert c = true
  | .markup tag => tag.IsInert
  | .written inside => IsWrittenTag inside ∧ ∃ line ∈ lines, tagged inside [] <:+: line

/-- A legal piece has the tags that it says it has, and no others. -/
lemma Legal.hasTags {lines : List Text} {piece : Piece} (h : piece.Legal lines) :
    HasTags piece.source piece.tags := by
  cases piece with
  | text words => exact hasTags_of_notMem fun hc => absurd (h _ hc) (by decide)
  | markup tag => exact .tag (Tag.IsInert.isTagChar h) .nil
  | written inside =>
      obtain ⟨⟨slash, letter, rest, rfl, hslash, hletter, hrest⟩, -⟩ := h
      refine .tag ?_ .nil
      rw [List.forall_mem_append, List.forall_mem_cons]
      refine ⟨?_, ?_, hrest⟩
      · rcases hslash with rfl | rfl <;> decide
      · exact isTagChar_of_isAlpha hletter

end Piece

lemma hasTags_flatMap {lines : List Text} {pieces : List Piece}
    (h : ∀ piece ∈ pieces, piece.Legal lines) :
    HasTags (pieces.flatMap Piece.source) (pieces.flatMap Piece.tags) := by
  induction pieces with
  | nil => exact .nil
  | cons piece rest ih =>
      rw [List.forall_mem_cons] at h
      rw [List.flatMap_cons, List.flatMap_cons]
      exact (Piece.Legal.hasTags h.1).append (ih h.2)

/-! ### Composed texts -/

/-- **A composed text** is made up of legal pieces. -/
def Composed (lines : List Text) (text : Text) : Prop :=
  ∃ pieces : List Piece, text = pieces.flatMap Piece.source ∧ ∀ piece ∈ pieces, piece.Legal lines

section

variable {lines : List Text}

lemma composed_nil : Composed lines [] :=
  ⟨[], rfl, nofun⟩

lemma composed_piece {piece : Piece} (h : piece.Legal lines) : Composed lines piece.source :=
  ⟨[piece], by rw [List.flatMap_singleton], List.forall_mem_singleton.mpr h⟩

lemma composed_text {text : Text} (h : ∀ c ∈ text, isInert c = true) : Composed lines text :=
  composed_piece (show (Piece.text text).Legal lines from h)

lemma composed_tag {tag : Tag} (h : tag.IsInert) : Composed lines tag.source :=
  composed_piece (show (Piece.markup tag).Legal lines from h)

lemma Composed.append {front back : Text} (hfront : Composed lines front)
    (hback : Composed lines back) : Composed lines (front ++ back) := by
  obtain ⟨pieces, rfl, hpieces⟩ := hfront
  obtain ⟨others, rfl, hothers⟩ := hback
  exact ⟨pieces ++ others, List.flatMap_append.symm, List.forall_mem_append.mpr ⟨hpieces, hothers⟩⟩

lemma composed_flatMap {α : Type} {items : List α} {f : α → Text}
    (h : ∀ item ∈ items, Composed lines (f item)) : Composed lines (items.flatMap f) := by
  induction items with
  | nil => exact composed_nil
  | cons item rest ih =>
      rw [List.forall_mem_cons] at h
      rw [List.flatMap_cons]
      exact h.1.append (ih h.2)

/-- More lines, or longer ones, leave a text composed. -/
lemma Composed.mono {others : List Text} {text : Text} (h : Composed lines text)
    (hlines : ∀ line ∈ lines, ∃ other ∈ others, line <:+: other) : Composed others text := by
  obtain ⟨pieces, htext, hpieces⟩ := h
  refine ⟨pieces, htext, fun piece hpiece => ?_⟩
  have hlegal := hpieces piece hpiece
  cases piece with
  | text words => exact hlegal
  | markup tag => exact hlegal
  | written inside =>
      obtain ⟨hwritten, line, hline, hinfix⟩ := hlegal
      obtain ⟨other, hother, hlonger⟩ := hlines line hline
      exact ⟨hwritten, other, hother, hinfix.trans hlonger⟩

end

end BlockTree.Inline
