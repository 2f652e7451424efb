import BlockTree.Binary64.Basic

/-!
The shortest decimal text of a floating-point number.

Among the decimals that read back as the number, the text shows one with the fewest digits, and of
those the nearest. Numbers from `10 ^ -4` up to `10 ^ 16` are written positionally, with at least
one digit after the point; others have a mantissa and an exponent of at least two digits.
-/

namespace BlockTree.Binary64

/-- The decimals `digits · 10 ^ place` that lie next to a positive fraction, below and above. -/
def neighbours (num den : Nat) (place : Int) : List Nat :=
  let q :=
    if 0 ≤ place then num / (den * Nat.pow 10 place.toNat)
    else num * Nat.pow 10 (-place).toNat / den
  [q, q + 1]

/-- Compares `digits · 10 ^ place` with a fraction. -/
def compareDecimal (digits : Nat) (place : Int) (num den : Nat) : Ordering :=
  if 0 ≤ place then compare (digits * Nat.pow 10 place.toNat * den) num
  else compare (digits * den) (num * Nat.pow 10 (-place).toNat)

/-- The reals that round to `mantissa · 2 ^ exponent`, as the numerators of their two ends over four
times the denominator, and whether the ends belong to them. -/
structure Basin where
  low : Nat
  high : Nat
  den : Nat
  closed : Bool

/-- The reals nearest to a positive finite number. Below a power of two the spacing is half as wide.
-/
def basin (mantissa : Nat) (exponent : Int) : Basin :=
  let up := if 0 ≤ exponent then Nat.pow 2 exponent.toNat else 1
  let down := if 0 ≤ exponent then 1 else Nat.pow 2 (-exponent).toNat
  let narrow := mantissa = Nat.pow 2 52 && minExponent < exponent
  let low := if narrow then 4 * mantissa - 1 else 4 * mantissa - 2
  ⟨low * up, (4 * mantissa + 2) * up, 4 * down, mantissa % 2 = 0⟩

/-- The decimal `digits · 10 ^ place` rounds to the number of the basin. -/
def Basin.holds (b : Basin) (place : Int) (digits : Nat) : Bool :=
  match compareDecimal digits place b.low b.den, compareDecimal digits place b.high b.den with
  | .gt, .lt => true
  | .eq, _ => b.closed
  | _, .eq => b.closed
  | _, _ => false

/-- Of two neighbours that both round to the number, the nearer one; a tie goes to the even one. -/
def nearer (num den : Nat) (place : Int) (q : Nat) : Nat :=
  match compareDecimal (2 * q + 1) place (2 * num) den with
  | .gt => q
  | .lt => q + 1
  | .eq => if q % 2 = 0 then q else q + 1

/-- Searches the decimal places downwards for the first that has a decimal in the basin. -/
def searchPlaces (b : Basin) (num den : Nat) : Nat → Int → Nat × Int
  | 0, place => (num * Nat.pow 10 (-place).toNat / den, place)
  | fuel + 1, place =>
    match (neighbours num den place).filter (b.holds place) with
    | [] => searchPlaces b num den fuel (place - 1)
    | [q] => (q, place)
    | q :: _ => (nearer num den place q, place)

/-- The digits and the decimal place of the shortest decimal of a positive finite number. -/
def shortest (mantissa : Nat) (exponent : Int) : Nat × Int :=
  let b := basin mantissa exponent
  let num := if 0 ≤ exponent then mantissa * Nat.pow 2 exponent.toNat else mantissa
  let den := if 0 ≤ exponent then 1 else Nat.pow 2 (-exponent).toNat
  let size : Int := ((Text.decimal (num * Nat.pow 10 330 / den)).length : Int) - 330
  searchPlaces b num den 40 size

/-- Positional or exponent notation for the digits `d₁d₂…`, whose first has the given power of ten.
-/
def layout (digits : Text) (power : Int) : Text :=
  if -4 ≤ power && power < 16 then
    if power < 0 then "0." ++ List.replicate (-power - 1).toNat '0' ++ digits
    else
      let whole := power.toNat + 1
      let padded := digits ++ List.replicate (whole - digits.length) '0'
      let fraction := padded.drop whole
      padded.take whole ++ "." ++ (if fraction.isEmpty then ['0'] else fraction)
  else
    let mantissa := match digits with
      | first :: second :: more => first :: '.' :: second :: more
      | short => short
    mantissa ++ (if power < 0 then "e-" else "e+").toList
      ++ (Text.decimal power.natAbs).leftpad 2 '0'

/-- The text of a floating-point number; the caller names infinity and the number that is none. -/
def text (infinity notANumber : Text) : Binary64 → Text
  | .nan => notANumber
  | .infinite negative => (if negative then ['-'] else []) ++ infinity
  | .finite negative mantissa exponent =>
    (if negative then ['-'] else []) ++
      if mantissa = 0 then "0.0".toList
      else
        let (digits, place) := shortest mantissa exponent
        let shown := Text.decimal digits
        let significant := shown.trimEnd (· = '0')
        layout significant (place + shown.length - 1)

end BlockTree.Binary64
