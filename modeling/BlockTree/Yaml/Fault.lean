import BlockTree.Fault

/-!
Why a text with indentation holds no value.

* `Yaml.Fault`: the text is malformed, or a scalar in it stands for a value that cannot be made;
* `Fault.cause?`: the failure that a fault of the second kind amounts to.
-/

namespace BlockTree.Yaml

/-- The parts of a moment that can be out of range. -/
inductive MomentFault where
  | year (number : Nat)
  | month
  | day
  | hour
  | minute
  | second
  | offset (seconds : Int)
  deriving DecidableEq, Repr

/-- A span of time by its whole days and the seconds beyond them, those that are not zero. -/
def spellSpan (seconds : Int) : Text :=
  let days := Int.fdiv seconds 86400
  let rest := Int.fmod seconds 86400
  let parts : List Text :=
    (if days = 0 then [] else ["days=" ++ Text.integer days])
      ++ (if rest = 0 then [] else ["seconds=" ++ Text.integer rest])
  "datetime.timedelta(" ++ (if parts.isEmpty then ['0'] else Text.join ", " parts) ++ ")"

/-- The wording of a fault. -/
def MomentFault.message : MomentFault → Text
  | .year n => "year " ++ Text.decimal n ++ " is out of range"
  | .month => "month must be in 1..12"
  | .day => "day is out of range for month"
  | .hour => "hour must be in 0..23"
  | .minute => "minute must be in 0..59"
  | .second => "second must be in 0..59"
  | .offset seconds =>
    "offset must be a timedelta strictly between -timedelta(hours=24) and timedelta(hours=24), not "
      ++ spellSpan seconds ++ "."

/-- Why a text holds no value. -/
inductive Fault where
  | malformed
  | noDigits (base : Nat)
  | tooManyDigits (count : Nat)
  | noCharacter
  | hugeCode
  | hugeReal
  | badMoment (fault : MomentFault)
  deriving DecidableEq, Repr

/-- The failure that a fault amounts to, unless the text is malformed. -/
def Fault.cause? : Fault → Option Cause
  | .malformed => none
  | .noDigits base =>
    some (.badValue ("invalid literal for int() with base " ++ Text.decimal base ++ ": ''"))
  | .tooManyDigits count => some (.badValue (Text.tooManyDigits count))
  | .noCharacter => some (.badValue "chr() arg not in range(0x110000)")
  | .hugeCode => some (.overflow "Python int too large to convert to C int")
  | .hugeReal => some (.overflow "int too large to convert to float")
  | .badMoment fault => some (.badValue fault.message)

end BlockTree.Yaml
