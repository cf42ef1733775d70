/-
  The shortest decimal text of a floating-point number.

  The digits are the fewest that read back as the number: on each decimal grid, from the coarsest
  to the finest, the number's two neighbours are tested against the interval of reals that round
  to it, in exact arithmetic; of two hits the nearer one is taken.  The layout of the digits is a
  separate matter: positional text never has an exponent, scientific text has one when the number
  is very small or very large.
-/
import DeployConfig.Number.Binary64

namespace DeployConfig.Binary64

/-- Decimal digits `d₁d₂…dₙ` with a point position, standing for `0.d₁d₂…dₙ * 10 ^ point`. -/
structure Decimal where
  digits : List Char
  point : Int
  deriving DecidableEq, Repr

/-- The position `p` with `10 ^ (p - 1) ≤ num / den < 10 ^ p`, for a positive fraction. -/
def decimalPoint (num den : Nat) : Int :=
  let guess : Int := (Text.digits 10 num).length - (Text.digits 10 den).length
  let (n, d) := scale 10 num den (-guess)
  if n < d then guess else guess + 1

/-- The reals that round to a number, in units of the exponent given: the number itself, and the
    two ends of the interval, which belong to it when the mantissa is even. -/
structure Interval where
  low : Nat
  value : Nat
  high : Nat
  exponent : Int
  closed : Bool

/-- The interval of reals that round to the number `mantissa * 2 ^ exponent`.  Below a power of two
    the neighbour is only half as far away. -/
def interval (mantissa : Nat) (exponent : Int) : Interval :=
  let low :=
    if mantissa = Nat.pow 2 52 ∧ exponent > -1074 then 4 * mantissa - 1 else 4 * mantissa - 2
  ⟨low, 4 * mantissa, 4 * mantissa + 2, exponent - 2, mantissa % 2 == 0⟩

/-- Whether the grid point `k * 10 ^ unit` lies in an interval. -/
def Interval.contains (i : Interval) (k : Nat) (unit : Int) : Bool :=
  let (n, d) := scale 10 k 1 unit
  let (twoUp, twoDown) := scale 2 1 1 i.exponent
  let left := i.low * twoUp * d
  let right := i.high * twoUp * d
  let point := n * twoDown
  if i.closed then left ≤ point && point ≤ right else left < point && point < right

/-- The grid point of `count` digits nearest to the number, if the grid has one in its interval. -/
def Interval.candidate? (i : Interval) (point : Int) (count : Nat) : Option (Nat × Int) :=
  let unit := point - count
  let (n, d) := scale 2 i.value 1 i.exponent
  let (n, d) := scale 10 n d (-unit)
  let below := n / d
  let nearest := roundDiv n d
  if i.contains nearest unit then some (nearest, unit)
  else if i.contains below unit then some (below, unit)
  else if i.contains (below + 1) unit then some (below + 1, unit)
  else none

/-- The candidate of the fewest digits, among counts from `count` on. -/
def Interval.shortest (i : Interval) (point : Int) (count : Nat) : Nat → Nat × Int
  | 0 => (i.value, i.exponent)
  | more + 1 =>
    match i.candidate? point count with
    | some found => found
    | none => i.shortest point (count + 1) more

/-- The fewest digits that read back as the number `mantissa * 2 ^ exponent`. -/
def shortest (mantissa : Nat) (exponent : Int) : Decimal :=
  if mantissa = 0 then ⟨['0'], 1⟩
  else
    let i := interval mantissa exponent
    let (n, d) := scale 2 mantissa 1 exponent
    let (k, unit) := i.shortest (decimalPoint n d) 1 17
    let ds := Text.digits 10 k
    let kept := (ds.reverse.dropWhile (· == '0')).reverse
    ⟨kept, ds.length + unit⟩

/-! ## Layout -/

/-- Digits with a point and no exponent: no point after a whole number, and a zero before a leading
    point. -/
def Decimal.positional (d : Decimal) : List Char :=
  let count := d.digits.length
  if d.point ≤ 0 then '0' :: '.' :: (List.replicate d.point.natAbs '0' ++ d.digits)
  else
    let whole := d.point.toNat
    if count ≤ whole then d.digits ++ List.replicate (whole - count) '0'
    else d.digits.take whole ++ '.' :: d.digits.drop whole

/-- Digits in positional form with `.0` after a whole number, or with an exponent when the number is
    below `10 ^ -5` or has more than sixteen places before the point. -/
def Decimal.scientific (d : Decimal) : List Char :=
  let count : Int := d.digits.length
  if count ≤ d.point ∧ d.point ≤ 16 then d.positional ++ ['.', '0']
  else if -5 < d.point ∧ d.point ≤ 16 then d.positional
  else
    let exponent := (Text.decimal (d.point - 1)).toList
    match d.digits with
    | [] => []
    | [only] => only :: 'e' :: exponent
    | first :: rest => first :: '.' :: rest ++ 'e' :: exponent

/-- A minus sign for negative numbers. -/
def sign (negative : Bool) : List Char := if negative then ['-'] else []

/-- The shortest positional text of a number. -/
def text : Binary64 → String
  | nan => "NaN"
  | infinite negative => if negative then "-inf" else "inf"
  | finite negative mantissa exponent =>
    String.ofList (sign negative ++ (shortest mantissa exponent).positional)

/-- The shortest text of a finite number that keeps a point or an exponent. -/
def scientific (negative : Bool) (mantissa : Nat) (exponent : Int) : String :=
  String.ofList (sign negative ++ (shortest mantissa exponent).scientific)

end DeployConfig.Binary64
