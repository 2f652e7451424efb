import BlockTree.Data
import BlockTree.Fault

/-!
Checks: reading typed values from structured data, with every violation reported.

* `Issue`: a violation with its path;
* `Check`: a value, or all the issues found, or the failure that broke the check off;
* `Check.seq` joins the issues of two checks; `Check.within` puts a step in front of their paths.
-/

namespace BlockTree.Schema

/-- A step from a value to a part of it. -/
inductive Step where
  | name (name : Text)
  | index (index : Nat)
  deriving DecidableEq, Repr

/-- The kinds of violations. -/
inductive Violation where
  | missing
  | notModel (model : Text)
  | notBlock
  | noTag
  | unknownTag (tag : Text)
  | notText
  | notList
  | notMapping
  | notOneOf (expected : List Text)
  | notInteger
  | notFinite
  | fraction
  | tooLarge
  | notNumeral
  | below (least : Int)
  | above (greatest : Int)
  | notBoolean
  | unclearBoolean
  | badHandler (detail : Text)
  | failedAssertion (detail : Text)
  | extra
  | notName
  deriving DecidableEq, Repr

/-- A violation, and the way from the checked value to the part that it concerns. -/
structure Issue where
  path : List Step
  violation : Violation
  deriving DecidableEq, Repr

/-- What comes of reading a value. -/
inductive Check (α : Type) where
  | ok (value : α)
  | invalid (issues : List Issue)
  | broken (cause : Cause)

namespace Check

variable {α β : Type}

/-- Applies a checked function to a checked value. A failure breaks off; else all issues count. -/
def seq (f : Check (α → β)) (x : Check α) : Check β :=
  match f, x with
  | .broken cause, _ => .broken cause
  | _, .broken cause => .broken cause
  | .ok g, .ok a => .ok (g a)
  | .ok _, .invalid issues => .invalid issues
  | .invalid issues, .ok _ => .invalid issues
  | .invalid issues, .invalid more => .invalid (issues ++ more)

instance : Applicative Check where
  pure := .ok
  seq f x := seq f (x ())

/-- Reports a violation at the value itself. -/
def fail (violation : Violation) : Check α :=
  .invalid [⟨[], violation⟩]

/-- The check of a part, reached by a step. -/
def within (step : Step) : Check α → Check α
  | .ok value => .ok value
  | .invalid issues => .invalid (issues.map fun issue => { issue with path := step :: issue.path })
  | .broken cause => .broken cause

/-- A further demand on a value. -/
def ensure (p : α → Option Violation) : Check α → Check α
  | .ok value =>
    match p value with
    | none => .ok value
    | some violation => fail violation
  | other => other

/-- The check of a member, or a value that stands for its absence. -/
def member (members : List (Text × Data)) (name : Text) (absent : Check α)
    (check : Data → Check α) : Check α :=
  match Entries.find? name members with
  | none => absent
  | some value => (check value).within (.name name)

/-- The check of a member that has to be there. -/
def required (members : List (Text × Data)) (name : Text) (check : Data → Check α) : Check α :=
  member members name ((fail .missing).within (.name name)) check

/-- The check of a member with a default. -/
def default (members : List (Text × Data)) (name : Text) (value : α) (check : Data → Check α) :
    Check α :=
  member members name (.ok value) check

end Check

end BlockTree.Schema
