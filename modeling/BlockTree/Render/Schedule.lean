import BlockTree.Render.Block

/-!
Rendering under a schedule.

The renderer has one dispatch for all lists of siblings. Workers of a pool may come to each list in
another order.

* `Schedule`: a dispatch for each list of siblings in the tree;
* `renderBlocksAt`: siblings, rendered under a schedule;
* `Pool.schedule`: the schedule of a strategy with a pool.
-/

namespace BlockTree

/-- A schedule has a dispatch for each list of siblings, by the indices on the way to it. -/
abbrev Schedule := List Nat → Dispatch

/-- The schedule inside the block with this index. -/
def Schedule.below (schedule : Schedule) (index : Nat) : Schedule :=
  fun path => schedule (index :: path)

/-- The schedule of a strategy: in parallel a pool takes the siblings. -/
def Pool.schedule (pool : Pool) : Strategy → Schedule
  | .sequential => fun _ => .sequential
  | .parallel => pool.dispatch

/-- The context with the dispatch that a schedule has for the outermost list. -/
def Context.at (ctx : Context) (schedule : Schedule) : Context :=
  { ctx with dispatch := schedule [] }

mutual

/-- Renders a block under a schedule. -/
def renderAt (ctx : Context) (schedule : Schedule) : Block → RenderM Part
  | .quote head blocks =>
    Rendered.part <$> (ctx.at schedule).quote head (renderEachAt ctx schedule 0 blocks)
  | .list head kind blocks =>
    Rendered.part <$> (ctx.at schedule).list head kind (renderEachAt ctx schedule 0 blocks)
  | .item head _ blocks spaced =>
    Rendered.part <$> (ctx.at schedule).item head spaced (renderEachAt ctx schedule 0 blocks)
  | .footnotes _ notes =>
    Rendered.part <$> (ctx.at schedule).footnotes (notes.map Note.number)
      (renderNotesAt ctx schedule 0 notes)
  | block => renderBlock ctx block

/-- The renderings of siblings under a schedule, the first with this index. -/
def renderEachAt (ctx : Context) (schedule : Schedule) (index : Nat) :
    List Block → List (RenderM Part)
  | [] => []
  | block :: rest =>
    renderAt ctx (schedule.below index) block :: renderEachAt ctx schedule (index + 1) rest

/-- The renderings of notes under a schedule, the first with this index. -/
def renderNotesAt (ctx : Context) (schedule : Schedule) (index : Nat) :
    List Note → List (RenderM Part)
  | [] => []
  | .mk id number blocks :: rest =>
    (Rendered.part <$> (ctx.at (schedule.below index)).note (.mk id number blocks)
        (renderEachAt ctx (schedule.below index) 0 blocks))
      :: renderNotesAt ctx schedule (index + 1) rest

end

/-- Renders siblings under a schedule. -/
def renderBlocksAt (ctx : Context) (schedule : Schedule) (blocks : List Block) : RenderM Rendered :=
  (ctx.at schedule).renderSiblings (renderEachAt ctx schedule 0 blocks)

end BlockTree
