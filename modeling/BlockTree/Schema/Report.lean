import BlockTree.Block.Kind
import BlockTree.Schema.Check

/-!
Reports about values that fail their check.

* `Violation.code` and `Violation.message`: the name and the wording of a violation;
* `Rejection`: all the issues of a value that should have been of some model;
* `Check.result`: the value, or why there is none.
-/

namespace BlockTree.Schema

/-- Words between single marks, the last two joined by a word. -/
def alternatives : List Text → Text
  | [] => []
  | [word] => "'" ++ word ++ "'"
  | [word, last] => "'" ++ word ++ "' or '" ++ last ++ "'"
  | word :: rest => "'" ++ word ++ "', " ++ alternatives rest

/-- The words of all kinds of blocks between single marks. -/
def expectedTags : Text :=
  Text.join ", " (BlockKind.all.map fun kind => "'" ++ kind.word ++ "'")

namespace Violation

/-- The name of a violation. -/
def code : Violation → Text
  | .missing => "missing"
  | .notModel _ => "model_type"
  | .notBlock => "model_attributes_type"
  | .noTag => "union_tag_not_found"
  | .unknownTag _ => "union_tag_invalid"
  | .notText => "string_type"
  | .notList => "list_type"
  | .notMapping => "dict_type"
  | .notOneOf _ => "literal_error"
  | .notInteger => "int_type"
  | .notFinite => "finite_number"
  | .fraction => "int_from_float"
  | .tooLarge => "int_parsing_size"
  | .notNumeral => "int_parsing"
  | .below _ => "greater_than_equal"
  | .above _ => "less_than_equal"
  | .notBoolean => "bool_type"
  | .unclearBoolean => "bool_parsing"
  | .badHandler _ => "value_error"
  | .failedAssertion _ => "assertion_error"
  | .extra => "extra_forbidden"
  | .notName => "invalid_key"

/-- The wording of a violation. -/
def message : Violation → Text
  | .missing => "Field required"
  | .notModel model => "Input should be a valid dictionary or instance of " ++ model
  | .notBlock => "Input should be a valid dictionary or object to extract fields from"
  | .noTag => "Unable to extract tag using discriminator 'kind'"
  | .unknownTag tag =>
    "Input tag '" ++ tag ++ "' found using 'kind' does not match any of the expected tags: "
      ++ expectedTags
  | .notText => "Input should be a valid string"
  | .notList => "Input should be a valid list"
  | .notMapping => "Input should be a valid dictionary"
  | .notOneOf expected => "Input should be " ++ alternatives expected
  | .notInteger => "Input should be a valid integer"
  | .notFinite => "Input should be a finite number"
  | .fraction => "Input should be a valid integer, got a number with a fractional part"
  | .tooLarge => "Unable to parse input string as an integer, exceeded maximum size"
  | .notNumeral => "Input should be a valid integer, unable to parse string as an integer"
  | .below least => "Input should be greater than or equal to " ++ Text.integer least
  | .above greatest => "Input should be less than or equal to " ++ Text.integer greatest
  | .notBoolean => "Input should be a valid boolean"
  | .unclearBoolean => "Input should be a valid boolean, unable to interpret input"
  | .badHandler detail => "Value error, " ++ detail
  | .failedAssertion detail => "Assertion failed, " ++ detail
  | .extra => "Extra inputs are not permitted"
  | .notName => "Keys should be strings"

end Violation

/-- The issues of a value that should have been of a model. -/
structure Rejection where
  model : Text
  issues : List Issue
  deriving DecidableEq, Repr

/-- The number of issues and the model on one line. -/
def Rejection.summary (rejection : Rejection) : Text :=
  let count := rejection.issues.length
  let noun : Text := if count = 1 then "error" else "errors"
  Text.decimal count ++ " validation " ++ noun ++ " for " ++ rejection.model

/-- Why a value could not be read. -/
inductive Refusal where
  | rejected (rejection : Rejection)
  | broken (cause : Cause)
  deriving DecidableEq, Repr

/-- The value that was read as a model, or why there is none. -/
def Check.result {α : Type} (model : Text) : Check α → Except Refusal α
  | .ok value => .ok value
  | .invalid issues => .error (.rejected ⟨model, issues⟩)
  | .broken cause => .error (.broken cause)

end BlockTree.Schema
