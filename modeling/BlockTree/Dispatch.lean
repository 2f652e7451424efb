import BlockTree.Text.Basic

/-!
Dispatch: which siblings are evaluated in which order, and what a fault does to the others.

* `Dispatch.run` evaluates actions in the order of a dispatch and keeps the results with their
  indices; either it ends at the first fault, or it goes on (`runTogether`) and the fault with the
  smallest index counts;
* `inDocumentOrder` sorts results by index, equal indices staying in the order of evaluation;
* `Pool`: the orders in which a pool of workers comes to siblings;
* `Strategy`: the two ways that options can name.
-/

namespace BlockTree

/-- A computation that may fail and keeps a state either way. -/
abbrev Action (ε σ α : Type) := ExceptT ε (StateM σ) α

/-- The order of evaluation of `n` siblings, as a list of indices, with omissions and repetitions
allowed; and whether a fault keeps later siblings from being evaluated. -/
structure Dispatch where
  order : Nat → List Nat
  stopsAtFault : Bool

variable {ε σ α β : Type}

/-- Evaluates actions one after another; a fault ends the evaluation. -/
def runInTurn : List (Nat × Action ε σ α) → Action ε σ (List (Nat × α))
  | [] => pure []
  | (i, action) :: rest => do
    let result ← action
    let results ← runInTurn rest
    pure ((i, result) :: results)

/-- The entries with smaller indices first, those with equal indices in the order in which they
come. -/
def byIndex (entries : List (Nat × α)) : List (Nat × α) :=
  entries.mergeSort fun a b => a.1 ≤ b.1

/-- Results under their indices, or the first fault among the outcomes. -/
def collect : List (Nat × Except ε α) → Except ε (List (Nat × α))
  | [] => .ok []
  | (i, x) :: rest => x >>= fun a => (collect rest).map ((i, a) :: ·)

/-- The outcomes of all actions, whatever becomes of the others. -/
def attemptAll : List (Nat × Action ε σ α) → σ → List (Nat × Except ε α) × σ
  | [], state => ([], state)
  | (i, action) :: rest, state =>
    let (outcome, state) := action state
    let (outcomes, state) := attemptAll rest state
    ((i, outcome) :: outcomes, state)

/-- Evaluates all actions. Their outcomes are asked for by index: of several faults the one with the
smallest index counts, whichever came first. -/
def runTogether (actions : List (Nat × Action ε σ α)) : Action ε σ (List (Nat × α)) := fun state =>
  let (outcomes, state) := attemptAll actions state
  (collect (byIndex outcomes), state)

namespace Dispatch

/-- The elements in the order of the dispatch, with their indices. -/
def pick (dispatch : Dispatch) (actions : List α) : List (Nat × α) :=
  (dispatch.order actions.length).filterMap fun i => actions[i]?.map (i, ·)

/-- Evaluates the actions that the dispatch picks. -/
def run (dispatch : Dispatch) (actions : List (Action ε σ α)) : Action ε σ (List (Nat × α)) :=
  if dispatch.stopsAtFault then runInTurn (dispatch.pick actions)
  else runTogether (dispatch.pick actions)

/-- Every sibling once, in document order, up to the first fault. -/
def sequential : Dispatch := ⟨List.range, true⟩

/-- Every sibling once, whatever becomes of the others: a pool that comes to them in document order,
which is one order of many. -/
def parallel : Dispatch := ⟨List.range, false⟩

/-! ### Other orders -/

/-- From the last sibling to the first. -/
def backwards : Dispatch := ⟨fun n => (List.range n).reverse, true⟩

/-- The siblings at odd indices before those at even ones. -/
def oddFirst : Dispatch :=
  ⟨fun n => (List.range n).filter (· % 2 = 1) ++ (List.range n).filter (· % 2 = 0), true⟩

/-- All but the first sibling. -/
def dropFirst : Dispatch := ⟨fun n => (List.range n).drop 1, true⟩

/-- All siblings, and all once more. -/
def twice : Dispatch := ⟨fun n => List.range n ++ List.range n, true⟩

/-- No sibling. -/
def nothing : Dispatch := ⟨fun _ => [], true⟩

end Dispatch

/-- The results in the order of their indices. -/
def inDocumentOrder (results : List (Nat × α)) : List α :=
  (byIndex results).map Prod.snd

/-! ### Pools -/

/-- A pool of workers comes to the siblings of each list in an order of its own, to each of them
once. A list is known by the indices on the way to it. -/
structure Pool where
  order : List Nat → Nat → List Nat
  complete : ∀ path count, (order path count).Perm (List.range count)

/-- The dispatch of a pool: a fault keeps no sibling from being evaluated. -/
def Pool.dispatch (pool : Pool) (path : List Nat) : Dispatch :=
  ⟨pool.order path, false⟩

/-- The pool that comes to all siblings in document order. -/
def Pool.inOrder : Pool where
  order _ := List.range
  complete _ _ := .refl _

/-- The pool that comes to the last sibling first. -/
def Pool.backwards : Pool where
  order _ count := (List.range count).reverse
  complete _ count := (List.range count).reverse_perm

/-! ### Strategies -/

/-- A way of evaluating siblings that options can name. -/
inductive Strategy where
  | sequential
  | parallel
  deriving DecidableEq, Repr

/-- The word for a strategy. -/
def Strategy.word : Strategy → Text
  | .sequential => "sequential"
  | .parallel => "parallel"

/-- The dispatch of a strategy. -/
def Strategy.dispatch : Strategy → Dispatch
  | .sequential => .sequential
  | .parallel => .parallel

/-- Why a strategy cannot be used. -/
inductive StrategyFault where
  | unknown (name : Text)
  | noWorkers
  deriving DecidableEq, Repr

/-- The wording of the fault. -/
def StrategyFault.message : StrategyFault → Text
  | .unknown name => "unknown dispatch strategy: " ++ name
  | .noWorkers => "max_workers must be greater than 0"

namespace Strategy

/-- The strategy with a name. -/
def ofName (name : Text) : Except StrategyFault Strategy :=
  match [Strategy.sequential, .parallel].find? fun s => s.word = name with
  | some strategy => .ok strategy
  | none => .error (.unknown name)

/-- Two or more siblings are evaluated in parallel by at least one worker. -/
def admits (strategy : Strategy) (workers : Option Int) (count : Nat) : Bool :=
  match strategy, workers with
  | .parallel, some n => count < 2 || 0 < n
  | _, _ => true

/-- Evaluates a function on each item with at most so many workers. -/
def map (strategy : Strategy) (workers : Option Int) (items : List α) (f : α → Except ε β) :
    Except (StrategyFault ⊕ ε) (List β) :=
  if strategy.admits workers items.length then
    let actions : List (Action ε Unit β) := items.map fun item => liftM (f item)
    match (strategy.dispatch.run actions () : Except ε (List (Nat × β)) × Unit).1 with
    | .ok results => .ok (results.map Prod.snd)
    | .error fault => .error (.inr fault)
  else .error (.inl .noWorkers)

end Strategy

end BlockTree
