import BlockTree.Proofs.AttributeList
import BlockTree.Proofs.ReturnLink

/-!
A rendered list of footnotes, and the references to it.

* `Text.integer_injective`: no two numbers are written alike, so that the identifier of an item and
  that of a reference belong to one number only.
* `noteItem_of_linked`: the item of a note whose blocks are rendered. Its attribute list is always
  read.
* `renderBlock_footnotes_items`: the list is rendered to the items of its notes in order, each with
  its return link; a reference to a note and the return link of the note point at each other.
-/

namespace BlockTree

/-! ### Numbers in identifiers -/

namespace Text

lemma decimal_injective : Function.Injective decimal := by
  intro m n h
  have hdigits : Nat.toDigits 10 m = Nat.toDigits 10 n := h
  rw [← Nat.ofDigitChars_ten_toDigits (n := m), hdigits, Nat.ofDigitChars_ten_toDigits]

lemma minus_notMem_decimal (n : Nat) : '-' ∉ decimal n := by
  intro h
  have hdigit : '-'.isDigit = true := Nat.isDigit_of_mem_toDigits (by decide) (by decide) h
  exact absurd hdigit (by decide)

/-- **No two numbers are written alike.** -/
lemma integer_injective : Function.Injective integer := by
  intro m n h
  cases m with
  | ofNat m =>
      cases n with
      | ofNat n => exact congrArg Int.ofNat (decimal_injective h)
      | negSucc n =>
          have hm : decimal m = '-' :: decimal (n + 1) := h
          exact absurd (hm ▸ List.mem_cons_self) (minus_notMem_decimal m)
  | negSucc m =>
      cases n with
      | ofNat n =>
          have hn : '-' :: decimal (m + 1) = decimal n := h
          exact absurd (hn ▸ List.mem_cons_self) (minus_notMem_decimal n)
      | negSucc n =>
          have hmn := decimal_injective (List.cons.inj h).2
          rw [Nat.succ_injective hmn]

end Text

/-- An identifier belongs to one number: that of an item to the number of its note, that of a
reference to the number of the note that it refers to. -/
lemma noteId_injective : Function.Injective Markup.noteId :=
  fun _ _ h => Text.integer_injective (List.append_cancel_left h)

lemma referenceId_injective : Function.Injective Markup.referenceId :=
  fun _ _ h => Text.integer_injective (List.append_cancel_left h)

/-! ### Items of notes -/

section

variable {ctx : Context}

/-- The markup of the item of a note. -/
def noteItemHtml (number : Int) (content : Text) : Text :=
  "<li id=\"" ++ Markup.noteId number ++ "\">" ++ content ++ "</li>\n"

lemma noteItemHtml_eq (number : Int) (content : Text) :
    noteItemHtml number content
      = "<li" ++ (Attributes.inTag [("id", [Markup.noteId number])]
          ++ (">" ++ content ++ "</li>\n")) := by
  have hid : Attributes.inTag [("id", [Markup.noteId number])]
      = " id=\"".toList ++ (Markup.noteId number ++ "\"".toList) := rfl
  rw [hid]
  unfold noteItemHtml
  generalize Markup.noteId number = id
  simp only [List.append_assoc]
  rfl

/-- **The item of a note** is named by the number of the note, and holds its blocks with the
link. -/
lemma noteItem_of_linked (hread : ctx.readAttributes = Attributes.readList) {note : Note}
    {s t : Journal} {linked : Rendered}
    (h : renderBlocks ctx note.withReturnLink s = (.ok linked, t)) :
    ctx.noteItem note (note.withReturnLink.map (renderBlock ctx)) s
      = (.ok (Rendered.part ⟨noteItemHtml note.number linked.html, linked.messages⟩), t) := by
  have hsiblings : ctx.renderSiblings (note.withReturnLink.map (renderBlock ctx)) s
      = (.ok linked, t) := by
    rw [← renderEach_eq_map]
    exact h
  have hitem : itemHtml false linked.html = "<li".toList ++ (">" ++ linked.html ++ "</li>\n") := rfl
  have hresolved : note.itemHead.attributes.resolveWith ctx.readAttributes []
      = .ok [("id", [Markup.noteId note.number])] := by
    rw [hread, Note.itemHead, Attributes.Spec.resolveWith, Attributes.Spec.resolve,
      Attributes.readStrict, readList_noteId]
    rfl
  have hwrapped : ctx.wrapped note.itemHead (itemHtml false) linked
      = .ok ⟨noteItemHtml note.number linked.html, linked.messages⟩ := by
    rw [Context.wrapped, Context.decorate, hitem, Attributes.decorate_append (by decide) rfl,
      hresolved, noteItemHtml_eq]
    rfl
  rw [Context.noteItem, Action.map_apply, Context.container_of_siblings hsiblings, hwrapped]
  rfl

/-- The rendered items of notes whose linked blocks are rendered to these texts. -/
def noteItems (notes : List Note) (linked : List Rendered) : List Rendered :=
  List.zipWith (fun note added => ⟨noteItemHtml note.number added.html, added.messages⟩) notes
    linked

/-- **The items of the notes** are rendered one after another, each with its link, if the blocks of
the notes are. -/
lemma noteItems_evaluate (horder : ctx.dispatch.InOrder)
    (hread : ctx.readAttributes = Attributes.readList) {notes : List Note} {s t : Journal}
    {owns : List Rendered}
    (hnumbers : ∀ note ∈ notes, Text.isWritable note.number = true)
    (howns : Evaluates (notes.map fun note => renderBlocks ctx note.blocks) s owns t) :
    ∃ linked : List Rendered,
      Evaluates (notes.map fun note => liftM note.appendReturnLink >>= renderBlocks ctx) s linked t
      ∧ (noteItems notes linked).flatMap Rendered.messages = owns.flatMap Rendered.messages
      ∧ Evaluates (notes.map fun note =>
            ctx.noteItem note (note.withReturnLink.map (renderBlock ctx))) s
          ((noteItems notes linked).map Rendered.part) t := by
  induction notes generalizing s owns with
  | nil =>
      cases howns
      exact ⟨[], .nil _, rfl, .nil _⟩
  | cons note rest ih =>
      rw [List.forall_mem_cons] at hnumbers
      cases howns with
      | cons hown hrest =>
          obtain ⟨added, hadded, hlinked⟩ := exists_linked horder note hown
          obtain ⟨others, hothers, hmessages, hitems⟩ := ih hnumbers.2 hrest
          have hfirst := (congrFun (renderBlocks_of_isWritable ctx hnumbers.1) _).trans hadded
          refine ⟨added :: others, .cons hfirst hothers, ?_,
            .cons (noteItem_of_linked hread hadded) hitems⟩
          rw [noteItems, List.zipWith_cons_cons, List.flatMap_cons, List.flatMap_cons,
            hlinked.messages, ← hmessages, noteItems]

/-! ### The list of notes -/

/-- The markup of a list of notes, from the markup of their linked blocks. -/
def noteListHtml (notes : List Note) (linked : List Rendered) : Text :=
  "<div class=\"footnotes\">\n<hr>\n<ol>\n" ++ (noteItems notes linked).flatMap Rendered.html
    ++ "</ol>\n\n</div>"

lemma footnotesHtml_eq (content : Text) :
    footnotesHtml (listHtml .numbered content)
      = "<div class=\"footnotes\">\n<hr>\n<ol>\n" ++ content ++ "</ol>\n\n</div>" := by
  unfold footnotesHtml listHtml
  simp [Text.join, ListKind.word]

lemma renderBlock_footnotes_of_items {head : Head} {notes : List Note} {s t : Journal}
    {linked : List Rendered} (horder : ctx.dispatch.InOrder)
    (hnumbers : ∀ note ∈ notes, Text.isWritable note.number = true)
    (hitems : Evaluates (notes.map fun note =>
          ctx.noteItem note (note.withReturnLink.map (renderBlock ctx))) s
        ((noteItems notes linked).map Rendered.part) t) :
    renderBlock ctx (.footnotes head notes) s
      = (.ok (Rendered.part ⟨noteListHtml notes linked,
          (noteItems notes linked).flatMap Rendered.messages⟩), t) := by
  have hall : (notes.map Note.number).all Text.isWritable = true := by
    rw [List.all_map, List.all_eq_true]
    exact hnumbers
  have hsiblings := (Context.renderSiblings_eq_ok horder).mpr ⟨_, hitems, rfl⟩
  have hlist : ctx.wrapped {} (listHtml .numbered) (concatenation (noteItems notes linked))
      = .ok ⟨listHtml .numbered ((noteItems notes linked).flatMap Rendered.html),
          (noteItems notes linked).flatMap Rendered.messages⟩ := rfl
  have hhtml : noteListHtml notes linked
      = footnotesHtml (listHtml .numbered ((noteItems notes linked).flatMap Rendered.html)) :=
    (footnotesHtml_eq _).symm
  rw [renderBlock_footnotes, Action.map_apply, Context.footnotes, if_pos hall, Context.list,
    Action.bind_apply, Context.container_of_siblings hsiblings, hlist, hhtml]
  rfl

/-- A number that cannot be written ends the list before any of its blocks are rendered. -/
lemma renderBlock_footnotes_unwritable {head : Head} {notes : List Note} {note : Note}
    (hnote : note ∈ notes) (h : Text.isWritable note.number = false) :
    Settles (renderBlock ctx (.footnotes head notes))
      (.error (.other (.badValue Text.tooLongToWrite))) := by
  intro s
  have hall : ¬ (notes.map Note.number).all Text.isWritable = true := by
    rw [List.all_map, List.all_eq_true]
    intro hall
    have hwritable : Text.isWritable note.number = true := hall note hnote
    rw [h] at hwritable
    cases hwritable
  rw [renderBlock_footnotes, Action.map_apply, Context.footnotes, if_neg hall]
  rfl

end

/-! ### References -/

/-- **A reference** to a known note: its target is the identifier of an item, and its own identifier
the target of a return link. -/
lemma renderSpan_note {footnotes : Entries Int} {id : Text} {number : Int}
    (h : footnotes.find? id = some number) :
    Inline.renderSpan footnotes (.note id)
      = "<a href=\"#fn:" ++ Text.integer number ++ "\" id=\"fnref:" ++ Text.integer number
          ++ "\" class=\"footnote\" title=\"see footnote\">" ++ Text.integer number ++ "</a>" := by
  have hspan : Inline.renderSpan footnotes (.note id)
      = Markup.footnoteReference (Markup.noteId number) (Markup.referenceId number) number := by
    rw [Inline.renderSpan, h]
  rw [hspan]
  unfold Markup.footnoteReference Markup.noteId Markup.referenceId
  generalize Text.integer number = digits
  simp only [List.append_assoc]
  rfl

/-- **A list of footnotes and the references to it.** Where the blocks of all notes are rendered, the
list is rendered, to the items of the notes in order: each is named by the number of its note and
holds the blocks of the note with its return link. A reference to a known note has the item as its
target, and is itself the target of the return link; no other item and no other reference has the
same identifier. The one exception is a list with a number that cannot be written. -/
theorem renderBlock_footnotes_items (ctx : Context) (horder : ctx.dispatch.InOrder)
    (hread : ctx.readAttributes = Attributes.readList) (head : Head) (notes : List Note) :
    (∀ s t owns, Evaluates (notes.map fun note => renderBlocks ctx note.blocks) s owns t →
      (∀ note ∈ notes, Text.isWritable note.number = true) →
      ∃ linked, Evaluates (notes.map fun note => liftM note.appendReturnLink >>= renderBlocks ctx)
          s linked t
        ∧ renderBlock ctx (.footnotes head notes) s
          = (.ok (Rendered.part ⟨noteListHtml notes linked, owns.flatMap Rendered.messages⟩), t))
    ∧ (∀ note ∈ notes, Text.isWritable note.number = false →
      ∀ s, renderBlock ctx (.footnotes head notes) s
        = (.error (.other (.badValue Text.tooLongToWrite)), s))
    ∧ (∀ (footnotes : Entries Int) (id : Text) (number : Int), footnotes.find? id = some number →
      Text.isWritable number = true →
      (∀ line front back, Inline.spans line = front ++ .note id :: back →
        Inline.renderLine footnotes line = front.flatMap (Inline.renderSpan footnotes)
          ++ ("<a href=\"#fn:" ++ Text.integer number ++ "\" id=\"fnref:" ++ Text.integer number
            ++ "\" class=\"footnote\" title=\"see footnote\">" ++ Text.integer number ++ "</a>")
          ++ back.flatMap (Inline.renderSpan footnotes))
        ∧ (id ≠ [] → ']' ∉ id → ∀ rest,
          Inline.spans ("[^" ++ id ++ "]" ++ rest) = .note id :: Inline.spans rest)
        ∧ (∀ content, noteItemHtml number content
          = "<li id=\"fn:" ++ Text.integer number ++ "\">" ++ content ++ "</li>\n")
        ∧ Markup.returnLink number
          = "<a href=\"#fnref:" ++ Text.integer number
              ++ "\" title=\"return to article\" class=\"reversefootnote\">&#x21A9;</a>")
    ∧ Function.Injective Markup.noteId ∧ Function.Injective Markup.referenceId := by
  refine ⟨fun s t owns howns hnumbers => ?_, fun note hnote h => renderBlock_footnotes_unwritable
    hnote h, fun footnotes id number h _ => ⟨fun line front back hline => ?_,
      fun hne hid rest => ?_, fun content => ?_, ?_⟩,
    noteId_injective, referenceId_injective⟩
  · obtain ⟨linked, hlinked, hmessages, hitems⟩ :=
      noteItems_evaluate horder hread hnumbers howns
    refine ⟨linked, hlinked, ?_⟩
    rw [← hmessages]
    exact renderBlock_footnotes_of_items horder hnumbers hitems
  · rw [Inline.renderLine, hline, List.flatMap_append, List.flatMap_cons, renderSpan_note h,
      List.append_assoc (front.flatMap _)]
  · exact Inline.spans_of_read? (Inline.Span.read?_of_isNote ⟨id, rfl, hne, hid⟩ rest)
  · unfold noteItemHtml Markup.noteId
    generalize Text.integer number = digits
    simp only [List.append_assoc]
    rfl
  · unfold Markup.returnLink Markup.referenceId
    generalize Text.integer number = digits
    simp only [List.append_assoc]
    rfl

/-- Two notes, the first without blocks of its own, and a reference to the second in a line. -/
theorem renderBlock_footnotes_items_two :
    (∃ linked, renderBlock { convert := .bracketed }
        (.footnotes {} [.mk none 1 [], .mk none 2 [.para {} ["a"]]]) []
      = (.ok (Rendered.part
          ⟨noteListHtml [.mk none 1 [], .mk none 2 [.para {} ["a"]]] linked, []⟩), []))
    ∧ Inline.renderLine [("x", 2)] "[^x]b"
      = "<a href=\"#fn:2\" id=\"fnref:2\" class=\"footnote\" title=\"see footnote\">2</a>b" := by
  have hlist := renderBlock_footnotes_items { convert := .bracketed } Dispatch.inOrder_sequential
    rfl {} [.mk none 1 [], .mk none 2 [.para {} ["a"]]]
  obtain ⟨hitems, -, hreference, -⟩ := hlist
  constructor
  · have howns : Evaluates
        ([Note.mk none 1 [], .mk none 2 [.para {} ["a"]]].map
          fun note => renderBlocks { convert := .bracketed } note.blocks) []
        [⟨[], []⟩, ⟨"<p>[a]</p>\n", []⟩] [] :=
      .cons (Prod.ext (by decide +kernel) rfl)
        (.cons (Prod.ext (by decide +kernel) rfl) (.nil []))
    obtain ⟨linked, -, hrendered⟩ := hitems [] [] _ howns (by decide)
    exact ⟨linked, hrendered⟩
  · have hspans : Inline.spans "[^x]b" = [] ++ .note "x" :: [.running "b"] := by decide +kernel
    obtain ⟨hline, -⟩ := hreference [("x", 2)] "x" 2 rfl (by decide)
    have htail : Inline.formatText "b" = "b" := by decide +kernel
    have hrunning : [Inline.Span.running "b"].flatMap (Inline.renderSpan [("x", 2)]) = "b" := by
      rw [List.flatMap_singleton, Inline.renderSpan, htail]
    rw [hline _ _ _ hspans, hrunning]
    rfl

/-- **A list with a number of more digits than the limit**: the blocks of its note are rendered, but
not the list. -/
theorem renderBlock_footnotes_unwritable_number :
    Evaluates ([Note.mk none (10 ^ Text.digitLimit) [.para {} ["a"]]].map
        fun note => renderBlocks { convert := .bracketed } note.blocks) []
      [⟨"<p>[a]</p>\n", []⟩] []
    ∧ renderBlock { convert := .bracketed }
        (.footnotes {} [.mk none (10 ^ Text.digitLimit) [.para {} ["a"]]]) []
      = (.error (.other (.badValue Text.tooLongToWrite)), []) := by
  refine ⟨.cons (Prod.ext ?_ rfl) (.nil []),
    renderBlock_footnotes_unwritable List.mem_cons_self ?_ []⟩
  · show (renderBlocks { convert := .bracketed } [.para {} ["a"]] []).1 = _
    decide +kernel
  · rw [Note.number, isWritable_limit]

end BlockTree
