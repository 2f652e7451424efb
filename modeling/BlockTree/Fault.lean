import BlockTree.Attributes.Basic
import BlockTree.Entity

/-!
Faults that end a rendering.

* `Cause`: a failure of no concern to the renderer, told apart by its kind;
* `RenderFault`: a failure that callers of the renderer expect;
* `Fault`: either of the two, as it leaves a rendering.
-/

namespace BlockTree

/-- A failure, by what went wrong. -/
inductive Cause where
  | crashed (detail : Text)
  | badValue (detail : Text)
  | wrongType (detail : Text)
  | overflow (detail : Text)
  | missingKey (key : Text)
  | missingIndex
  | unusual (kind detail : Text)
  deriving DecidableEq, Repr

/-- The wording of a cause. -/
def Cause.message : Cause → Text
  | .crashed detail => detail
  | .badValue detail => detail
  | .wrongType detail => detail
  | .overflow detail => detail
  | .missingKey key => Text.quote key
  | .missingIndex => "list index out of range"
  | .unusual _ detail => detail

/-- A failure that callers of the renderer expect. -/
inductive RenderFault where
  | illegalAttributes (list : Attributes.IllegalList)
  | undecodable (fault : Entity.Fault)
  | unknownBlock (typeName : Text)
  | handlerFailed (handler : Text) (cause : Cause)
  | refused (detail : Text)
  deriving DecidableEq, Repr

/-- The wording of a fault. -/
def RenderFault.message : RenderFault → Text
  | .illegalAttributes list => list.message
  | .undecodable fault => fault.message
  | .unknownBlock typeName => "cannot render block of type " ++ typeName
  | .handlerFailed handler cause => "plugin " ++ handler ++ " failed: " ++ cause.message
  | .refused detail => detail

/-- What can end a rendering. -/
inductive Fault where
  | render (fault : RenderFault)
  | other (cause : Cause)
  deriving DecidableEq, Repr

/-- The wording of a fault. -/
def Fault.message : Fault → Text
  | .render fault => fault.message
  | .other cause => cause.message

/-- A reference that cannot be decoded is an expected failure; a numeral beyond the limit is not. -/
def Entity.Fault.toFault (fault : Entity.Fault) : BlockTree.Fault :=
  match fault with
  | .tooLong _ => .other (.badValue fault.message)
  | _ => .render (.undecodable fault)

end BlockTree
