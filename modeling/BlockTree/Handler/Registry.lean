import BlockTree.Handler

/-!
The registry of handlers, and how a document refers to one.

A reference `module:name` names an object of a module. `Registry.resolve` gives the handler that a
value stands for, or a `ResolveFault` that says at which step the reference fails.
-/

namespace BlockTree

/-- An object that a module offers: a handler, or something that renders no lines. -/
inductive Offer where
  | handler (handler : Handler)
  | inert (spelling : Text)

/-- What stands under a name of a module: an object, or a maker of one, which may fail. -/
inductive Export where
  | object (offer : Offer)
  | maker (made : Except Cause Offer)

/-- A module that references can name. Only a package holds further modules. -/
structure Library where
  name : Text
  isPackage : Bool
  exports : Entries Export

/-- The modules that references can name. -/
abbrev Registry := List Library

/-- A module that is not there; its parent is named if it is no package. -/
structure MissingModule where
  name : Text
  plainParent : Option Text
  deriving DecidableEq, Repr

/-- The wording of the fault. -/
def MissingModule.message (fault : MissingModule) : Text :=
  "No module named " ++ Text.quote fault.name
    ++ match fault.plainParent with
      | none => []
      | some parent => "; " ++ Text.quote parent ++ " is not a package"

/-- Why a value stands for no handler. -/
inductive ResolveFault where
  | malformed (target : Text)
  | relative (module : Text)
  | missingModule (module : Text) (fault : MissingModule)
  | missingName (module name : Text)
  | making (cause : Cause)
  | unrenderable (spelling : Text)
  deriving DecidableEq, Repr

/-- The failure that a fault amounts to. -/
def ResolveFault.toCause : ResolveFault → Cause
  | .malformed target =>
    .badValue ("plugin handler must look like 'module:attribute', got " ++ Text.quote target)
  | .relative module =>
    .wrongType ("the 'package' argument is required to perform a relative import for "
      ++ Text.quote module)
  | .missingModule module fault =>
    .badValue ("cannot import plugin module " ++ Text.quote module ++ ": " ++ fault.message)
  | .missingName module name =>
    .badValue (Text.quote module ++ " has no attribute " ++ Text.quote name)
  | .making cause => cause
  | .unrenderable spelling =>
    .badValue ("plugin handler " ++ spelling ++ " has no render(lines) method")

namespace Registry

/-- The module under a part of a name, inside its parent if it has one. -/
def child (registry : Registry) (parent : Option Library) (part : Text) :
    Except MissingModule Library :=
  let name := match parent with
    | none => part
    | some package => package.name ++ "." ++ part
  match registry.find? (·.name = name) with
  | some library => .ok library
  | none =>
    .error ⟨name, parent.bind fun package => if package.isPackage then none else some package.name⟩

/-- Finds a module by the parts of its name, from the outermost inwards. -/
def descend (registry : Registry) (parent : Option Library) (part : Text) :
    List Text → Except MissingModule Library
  | [] => registry.child parent part
  | next :: rest =>
    match registry.child parent part with
    | .error fault => .error fault
    | .ok library => registry.descend (some library) next rest

/-- Finds a module by its name. -/
def locate (registry : Registry) (name : Text) : Except MissingModule Library :=
  match Text.splitOn '.' name with
  | [] => .error ⟨name, none⟩
  | part :: rest => registry.descend none part rest

/-- The handler that an object is. -/
def ofOffer : Offer → Except ResolveFault Handler
  | .handler handler => .ok handler
  | .inert spelling => .error (.unrenderable spelling)

/-- The handler that an export gives. -/
def ofExport : Export → Except ResolveFault Handler
  | .object offer => ofOffer offer
  | .maker (.ok offer) => ofOffer offer
  | .maker (.error cause) => .error (.making cause)

/-- The handler that a reference names. -/
def resolveTarget (registry : Registry) (target : Text) : Except ResolveFault Handler :=
  match Text.cut? ':' target with
  | none => .error (.malformed target)
  | some (module, name) =>
    if module.isEmpty || name.isEmpty then .error (.malformed target)
    else if module.head? = some '.' then .error (.relative module)
    else
      match registry.locate module with
      | .error fault => .error (.missingModule module fault)
      | .ok library =>
        match library.exports.find? name with
        | none => .error (.missingName module name)
        | some found => ofExport found

/-- The handler that a value stands for: only a text refers to one. -/
def resolve (registry : Registry) : Data → Except ResolveFault Handler
  | .str target => registry.resolveTarget target
  | value => .error (.unrenderable value.spell)

end Registry

end BlockTree
