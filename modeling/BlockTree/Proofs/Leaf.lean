import BlockTree.Proofs.Siblings
import BlockTree.Proofs.Tree

/-!
Single blocks: what they come to by themselves.

* `Handler.IsPure`: a handler whose reply depends on the lines alone; `Block.HasPureHandler` asks it
  of the handler of a plugin.
* `Block.fault?`: the fault of a block by itself, whatever becomes of the blocks inside;
  `Block.foreignType?`: the type of its markup, if that is no text.
* `leaf_settles`: a leaf with a pure handler settles on its own fault, or on markup of its type.
-/

namespace BlockTree

/-! ### Pure handlers -/

/-- Only a rendered reply settles on a part. -/
lemma Reply.settle_eq_ok {reply : Reply} {label : Text} {part : Part} :
    reply.settle label = .ok part ↔ reply = .rendered part := by
  cases reply with
  | rendered given => simp [settle]
  | unlistable fragment fault => simp [settle]
  | raised fault => cases fault <;> simp [settle]
  | unspoken fault => simp [settle]

namespace Handler

/-- **A pure handler**: its reply depends on the lines alone, and it takes no notes. -/
def IsPure (handler : Handler) : Prop :=
  ∃ reply : List Text → Reply, ∀ lines journal, handler.render lines journal = (reply lines, journal)

lemma isPure_ofLines (label : Text) (reply : List Text → Reply) : (ofLines label reply).IsPure :=
  ⟨reply, fun _ _ => rfl⟩

/-- The reply to a call with an empty journal: the only one that a pure handler gives. -/
def replyTo (handler : Handler) (lines : List Text) : Reply :=
  (handler.render lines []).1

lemma IsPure.call_settles {handler : Handler} (h : handler.IsPure) (lines : List Text) :
    Settles (handler.call lines) ((handler.replyTo lines).settle handler.label) := by
  obtain ⟨reply, hreply⟩ := h
  intro journal
  rw [call, replyTo, hreply, hreply]

end Handler

/-- A block has a pure handler, if it is a plugin. -/
def Block.HasPureHandler : Block → Prop
  | .plugin _ _ handler => handler.IsPure
  | _ => True

/-! ### Faults of single blocks -/

/-- The fault of a handler on these lines. -/
def Handler.fault? (handler : Handler) (lines : List Text) : Option Fault :=
  faultOf ((handler.replyTo lines).settle handler.label)

/-- The type of the markup that a handler gives for these lines, if it is no text. -/
def Handler.foreignType? (handler : Handler) (lines : List Text) : Option Text :=
  match handler.replyTo lines with
  | .rendered part => part.foreignType?
  | _ => none

/-- The fault of numbers of which one cannot be written. -/
def numbersFault? (notes : List Note) : Option Fault :=
  if (notes.map Note.number).all Text.isWritable then none
  else some (.other (.badValue Text.tooLongToWrite))

namespace Block

/-- **The fault of a block** by itself: its attributes where they are read, its handler, the numbers
of its notes, or that it is no block at all. -/
def fault? (reader : Attributes.Reader) : Block → Option Fault
  | .para head _ => head.fault? reader
  | .heading head _ _ => head.fault? reader
  | .quote head _ => head.fault? reader
  | .code head _ _ => head.fault? reader
  | .ruler head _ => head.fault? reader
  | .list head _ _ => head.fault? reader
  | .item head _ _ _ => head.fault? reader
  | .table head _ => head.fault? reader
  | .footnotes _ notes => numbersFault? notes
  | .plugin _ lines handler => handler.fault? lines
  | .foreign typeName => some (.render (.unknownBlock typeName))
  | .html _ _ => none
  | .htmlOther _ _ => none
  | .attributeList _ _ => none
  | .linkTarget _ _ _ _ => none

/-- The type of the markup of a block, if it is no text. -/
def foreignType? : Block → Option Text
  | .plugin _ lines handler => handler.foreignType? lines
  | _ => none

lemma Holds.fault?_eq {block : Block} {head : Head} {around : Text → Text} {blocks : List Block}
    (h : block.Holds head around blocks) (reader : Attributes.Reader) :
    block.fault? reader = head.fault? reader := by
  cases h <;> rfl

lemma Holds.foreignType?_eq {block : Block} {head : Head} {around : Text → Text}
    {blocks : List Block} (h : block.Holds head around blocks) : block.foreignType? = none := by
  cases h <;> rfl

end Block

/-! ### Outcomes of leaves -/

lemma Handler.comesTo (handler : Handler) (lines : List Text) :
    ComesTo (handler.fault? lines) (handler.foreignType? lines)
      ((handler.replyTo lines).settle handler.label) := by
  refine ⟨rfl, fun part hpart => ?_⟩
  rw [foreignType?, Reply.settle_eq_ok.mp hpart]

/-- Leaves that only have attributes to read settle on the fault of these. -/
lemma decorated_settles (ctx : Context) (head : Head) (defaults : Attributes) (html : Text)
    (finish : Text → Rendered) :
    SettlesAs (head.fault? ctx.readAttributes) none (Rendered.part <$>
      (liftM ((ctx.decorate head defaults html).map finish) : RenderM Rendered)) := by
  refine (settles_liftM _).settlesAs ?_
  rw [faultOf_map, faultOf_decorate]

/-- Markup that depends on nothing. -/
lemma text_settles (html : Text) (messages : List Message) :
    SettlesAs none none (pure ⟨.text html, messages⟩) := by
  refine ⟨_, settles_pure _, rfl, fun part hpart => ?_⟩
  rw [← Except.ok.inj hpart]
  rfl

/-- **A leaf settles** on its own fault, or on markup of its own type. -/
theorem leaf_settles (ctx : Context) {block : Block} (hleaf : block.isLeaf = true)
    (hpure : block.HasPureHandler) :
    SettlesAs (block.fault? ctx.readAttributes) block.foreignType? (renderBlock ctx block) := by
  cases block with
  | para head lines => exact decorated_settles ctx head _ _ _
  | heading head level content => exact decorated_settles ctx head _ _ _
  | code head lines language => exact decorated_settles ctx head _ _ _
  | ruler head mark => exact decorated_settles ctx head _ _ _
  | table head grid => exact decorated_settles ctx head _ _ _
  | html head lines => exact text_settles _ _
  | htmlOther head lines => exact text_settles _ _
  | attributeList head content => exact text_settles _ _
  | linkTarget head id url title => exact text_settles _ _
  | plugin head lines handler =>
      exact ⟨_, Handler.IsPure.call_settles hpure lines, handler.comesTo lines⟩
  | foreign typeName =>
      exact ⟨_, settles_throw _, rfl, fun part hpart => nomatch hpart⟩
  | quote head blocks => exact nomatch hleaf
  | list head kind blocks => exact nomatch hleaf
  | item head kind blocks spaced => exact nomatch hleaf
  | footnotes head notes => exact nomatch hleaf

end BlockTree
