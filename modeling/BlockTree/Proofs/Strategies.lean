import BlockTree.CommandLine.Run
import BlockTree.Proofs.Messages

/-!
The strategies come to the same with handlers that share nothing.

* `Pool.steady_schedule`: whatever the order in which a pool comes to siblings, it shows in no
  outcome.
* `renderBlocksAt_schedule`: so pure handlers are rendered as by the sequential strategy, under both
  strategies and every pool.
* `runRender_parallel`: to ask for the parallel strategy changes nothing of a run.
-/

namespace BlockTree

/-! ### Renderings -/

/-- **Every order of a pool** is hidden from the outcome, faults included. -/
lemma Pool.steady_schedule (pool : Pool) (strategy : Strategy) (path : List Nat) :
    (pool.schedule strategy path).Steady := by
  cases strategy with
  | sequential => exact Or.inl Dispatch.inOrder_sequential
  | parallel => exact Or.inr ⟨pool.complete path, rfl⟩

/-- **Both strategies come to the same** with every pool, if all handlers are pure. -/
theorem renderBlocksAt_schedule (options : Options) (pool : Pool) {blocks : List Block}
    (hpure : ∀ node ∈ nodesOf blocks, node.HasPureHandler) (journal : Journal) :
    renderBlocksAt (.ofOptions options) (pool.schedule options.strategy) blocks journal
      = renderBlocks (.ofOptions { options with strategy := .sequential }) blocks journal :=
  renderBlocksAt_of_steady (.ofOptions options) hpure (pool.steady_schedule options.strategy)
    journal

-- Handlers that take notes in one journal can tell in which order they come.
example :
    let blocks : List Block := [.plugin {} ["a"] .trace, .plugin {} ["b"] .trace]
    let html := fun strategy =>
      (renderBlocksAt {} (Pool.backwards.schedule strategy) blocks []).1.toOption.map Rendered.html
    html .sequential = some "<i>1</i>\n<i>2</i>\n".toList
      ∧ html .parallel = some "<i>2</i>\n<i>1</i>\n".toList := by
  cbv

/-! ### Runs -/

section

open CommandLine

variable (platform : Platform)

/-- The options asked for with the parallel strategy differ in the strategy only. -/
lemma requestedOptions_parallel (files : FileTree) (request : RenderRequest) :
    platform.requestedOptions files { request with parallel := true }
      = (platform.requestedOptions files request).map fun options =>
          { options with strategy := .parallel } := by
  obtain ⟨input, config, output, standalone, title, messages, parallel⟩ := request
  cases config with
  | none => cases parallel <;> rfl
  | some config =>
      simp only [Platform.requestedOptions]
      cases platform.loadOptions files (.ofText config) with
      | error fault => rfl
      | ok options => cases parallel <;> rfl

/-- **The parallel strategy changes nothing**, from the loading of the document to the status at the
end, with whatever pool: if the handlers that the document names are pure. -/
theorem runRender_parallel (pool : Pool) (registry : Registry) (files : FileTree)
    (journal : Journal) (request : RenderRequest)
    (hpure : ∀ blocks, platform.loadDocument registry files (.ofText request.input) = .ok blocks →
      ∀ node ∈ nodesOf blocks, node.HasPureHandler) :
    Platform.runRender { platform with pool } registry files journal
        { request with parallel := true }
      = platform.runRender registry files journal request := by
  have hload : Platform.loadDocument { platform with pool } registry files (.ofText request.input)
      = platform.loadDocument registry files (.ofText request.input) := rfl
  have hoptions : Platform.requestedOptions { platform with pool } files
        { request with parallel := true }
      = (platform.requestedOptions files request).map fun options =>
          { options with strategy := .parallel } := requestedOptions_parallel platform files request
  rw [Platform.runRender, Platform.runRender, hload, hoptions]
  cases hblocks : platform.loadDocument registry files (.ofText request.input) with
  | error fault => rfl
  | ok blocks =>
      cases platform.requestedOptions files request with
      | error fault => rfl
      | ok options =>
          simp only [Except.map, renderBlocksAt_schedule _ _ (hpure blocks hblocks)]
          rfl

end

end BlockTree
