import BlockTree.Render.Context
import BlockTree.Schema.Scalar

/-!
Reading options and messages from structured data. Options may have no members of other names.
-/

namespace BlockTree.Schema

/-- The names of the options. -/
def optionNames : List Text :=
  ["code_class_prefix", "dispatch_strategy", "max_workers"]

/-- A report for every member that is no option. -/
def noExtra : List (Text × Data) → Check Unit
  | [] => .ok ()
  | (name, _) :: rest =>
    if optionNames.contains name then noExtra rest
    else (fun _ done => done) <$> ((Check.fail .extra : Check Unit).within (.name name))
      <*> noExtra rest

/-- A report for every member whose name is no text. -/
def noStrangers : List (Data × Data) → Check Unit
  | [] => .ok ()
  | (name, _) :: rest =>
    (fun _ done => done) <$> ((Check.fail .notName : Check Unit).within (.name name.plain))
      <*> noStrangers rest

/-- Options, from members whose names are texts and others. -/
def optionsOf (members : List (Text × Data)) (others : List (Data × Data)) : Check Options :=
  (fun classPrefix strategy maxWorkers _ _ => ⟨classPrefix, strategy, maxWorkers⟩)
    <$> Check.default members "code_class_prefix" none (optional text)
    <*> Check.default members "dispatch_strategy" .sequential
      (oneOf Strategy.word [.sequential, .parallel])
    <*> Check.default members "max_workers" none (optional (integerFrom 1))
    <*> noExtra members <*> noStrangers others

/-- Options. -/
def options : Data → Check Options
  | .obj members => optionsOf members []
  | .mixed members others => optionsOf members others
  | _ => .fail (.notModel "RenderOptions")

/-- A message, from its members. -/
def messageOf (members : List (Text × Data)) : Check Message :=
  Message.mk
    <$> Check.default members "severity" .warning (oneOf Severity.word [.error, .warning, .info])
    <*> Check.default members "line" 0 integer
    <*> Check.required members "text" text

/-- A message. -/
def message : Data → Check Message
  | .obj members => messageOf members
  | .mixed members _ => messageOf members
  | _ => .fail (.notModel "Message")

end BlockTree.Schema
