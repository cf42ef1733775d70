/-
  Binary floating-point numbers of 64 bits, as exact mathematics.

  A finite number is `mantissa * 2 ^ exponent` with a sign; zero keeps its sign.  Numbers are made
  from decimals by rounding to the nearest one, a tie going to the even mantissa, so no operation
  here depends on the machine's arithmetic and every value can be computed inside a proof.
-/
import DeployConfig.Text.Integer

namespace DeployConfig

/-- A 64-bit binary floating-point number.  In a finite number the mantissa is below `2 ^ 53`, the
    exponent is at least `-1074`, and the mantissa is at least `2 ^ 52` unless the exponent is
    least. -/
inductive Binary64 where
  | nan
  | infinite (negative : Bool)
  | finite (negative : Bool) (mantissa : Nat) (exponent : Int)
  deriving DecidableEq, Repr, Inhabited

namespace Binary64

/-- The quotient rounded to the nearest integer, a tie going to the even one. -/
def roundDiv (num den : Nat) : Nat :=
  let q := num / den
  let r := num % den
  if 2 * r < den then q
  else if den < 2 * r then q + 1
  else q + q % 2

/-- A product `num * 2 ^ exponent` or a quotient, as a fraction of natural numbers. -/
def scale (base : Nat) (num den : Nat) (exponent : Int) : Nat × Nat :=
  if exponent < 0 then (num, den * base.pow exponent.natAbs)
  else (num * base.pow exponent.natAbs, den)

/-- The exponent `e` with `2 ^ e ≤ num / den < 2 ^ (e + 1)`, for a positive fraction. -/
def binaryExponent (num den : Nat) : Int :=
  let guess : Int := (Nat.log2 num : Int) - Nat.log2 den
  let (n, d) := scale 2 num den (-guess)
  if n < d then guess - 1 else guess

/-- The number nearest to a positive fraction. -/
def ofRatio (negative : Bool) (num den : Nat) : Binary64 :=
  let exponent := max (binaryExponent num den - 52) (-1074)
  let (n, d) := scale 2 num den (-exponent)
  let mantissa := roundDiv n d
  let (mantissa, exponent) :=
    if mantissa = Nat.pow 2 53 then (Nat.pow 2 52, exponent + 1) else (mantissa, exponent)
  if exponent > 971 then infinite negative else finite negative mantissa exponent

/-- Zero of a sign. -/
def zero (negative : Bool) : Binary64 := finite negative 0 (-1074)

/-- The number nearest to `coefficient * 10 ^ exponent`.  Decimals far outside the range are not
    multiplied out. -/
def ofDecimal (negative : Bool) (coefficient : Nat) (exponent : Int) : Binary64 :=
  if coefficient = 0 then zero negative
  else
    let magnitude : Int := (Text.digits 10 coefficient).length + exponent
    if magnitude > 310 then infinite negative
    else if magnitude < -330 then zero negative
    else
      let (n, d) := scale 10 coefficient 1 exponent
      ofRatio negative n d

/-- The number nearest to a natural number. -/
def ofNat (n : Nat) : Binary64 := ofDecimal false n 0

/-! ## Reading decimal text -/

/-- The exponent part of a decimal: nothing, or a letter `e` and an integer. -/
def exponentPart? : List Char → Option Int
  | [] => some 0
  | c :: rest => if c == 'e' || c == 'E' then Text.int? rest else none

/-- The number that a decimal without a sign writes: digits, at most one point with digits on at
    least one side, and an exponent part. -/
def ofUnsigned? (negative : Bool) (cs : List Char) : Option Binary64 :=
  let whole := cs.takeWhile Char.isDigit
  let rest := cs.dropWhile Char.isDigit
  let (fraction, tail) := match rest with
    | '.' :: more => (more.takeWhile Char.isDigit, more.dropWhile Char.isDigit)
    | other => ([], other)
  (Text.nat? 10 (whole ++ fraction)).bind fun coefficient =>
    (exponentPart? tail).map fun exponent =>
      ofDecimal negative coefficient (exponent - fraction.length)

/-- The number that a decimal with at most one sign in front writes. -/
def ofText? : List Char → Option Binary64
  | '+' :: rest => ofUnsigned? false rest
  | '-' :: rest => ofUnsigned? true rest
  | cs => ofUnsigned? false cs

/-- Whether a number is neither infinite nor undefined. -/
def isFinite : Binary64 → Bool
  | finite _ _ _ => true
  | _ => false

/-- Numeric equality: the two zeros are equal; here undefined numbers are equal too, so that it is
    an equivalence fit for keys. -/
def sameKey : Binary64 → Binary64 → Bool
  | nan, nan => true
  | infinite a, infinite b => a == b
  | finite a m e, finite b n f => (m == 0 && n == 0) || (a == b && m == n && e == f)
  | _, _ => false

end Binary64

end DeployConfig
