import BlockTree.Binary64.Basic

/-!
Sums and products of floating-point numbers, each the number nearest to the exact result.
-/

namespace BlockTree.Binary64

/-- The number nearest to `± mantissa · 2 ^ exponent`. -/
def ofScaled (negative : Bool) (mantissa : Nat) (exponent : Int) : Binary64 :=
  if mantissa = 0 then .finite negative 0 minExponent
  else if 0 ≤ exponent then ofFraction negative (mantissa * Nat.pow 2 exponent.toNat) 1
  else ofFraction negative mantissa (Nat.pow 2 (-exponent).toNat)

/-- The number nearest to a natural number, if it is finite. -/
def ofNat? (n : Nat) : Option Binary64 :=
  match ofScaled false n 0 with
  | .finite negative mantissa exponent => some (.finite negative mantissa exponent)
  | _ => none

/-- The number with the other sign. -/
def negate : Binary64 → Binary64
  | .finite negative mantissa exponent => .finite (!negative) mantissa exponent
  | .infinite negative => .infinite (!negative)
  | .nan => .nan

/-- The multiple of `2 ^ least` that a finite number is, for an exponent that is not less. -/
def units (negative : Bool) (mantissa : Nat) (exponent least : Int) : Int :=
  let magnitude := Int.ofNat (mantissa * Nat.pow 2 (exponent - least).toNat)
  if negative then -magnitude else magnitude

/-- The sum. An exact zero is negative only if both numbers are. -/
def add : Binary64 → Binary64 → Binary64
  | .finite a m e, .finite b n f =>
    let least := min e f
    let sum := units a m e least + units b n f least
    ofScaled (if sum = 0 then a && b else sum < 0) sum.natAbs least
  | .nan, _ => .nan
  | _, .nan => .nan
  | .infinite a, .infinite b => if a = b then .infinite a else .nan
  | .infinite a, _ => .infinite a
  | _, .infinite b => .infinite b

/-- The product. -/
def mul : Binary64 → Binary64 → Binary64
  | .finite a m e, .finite b n f => ofScaled (a != b) (m * n) (e + f)
  | .nan, _ => .nan
  | _, .nan => .nan
  | .infinite a, .infinite b => .infinite (a != b)
  | .infinite a, .finite b n _ => if n = 0 then .nan else .infinite (a != b)
  | .finite a m _, .infinite b => if m = 0 then .nan else .infinite (a != b)

end BlockTree.Binary64
