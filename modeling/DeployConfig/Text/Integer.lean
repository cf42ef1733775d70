/-
  Integers as text.

  Writing uses plain decimal digits with a minus sign for negative numbers.  Reading takes digits
  of a radix up to sixteen; the signed decimal form also takes one leading sign, so it accepts
  more than writing produces (`+5`, `007`).
-/

namespace DeployConfig.Text

/-- The value of a digit of a radix up to sixteen, letters of either case counting from ten. -/
def digitValue? (radix : Nat) (c : Char) : Option Nat :=
  let n := c.toNat
  let value :=
    if 0x30 ≤ n && n ≤ 0x39 then some (n - 0x30)
    else if 0x61 ≤ n && n ≤ 0x66 then some (n - 0x57)
    else if 0x41 ≤ n && n ≤ 0x46 then some (n - 0x37)
    else none
  value.bind fun v => if v < radix then some v else none

/-- The number that the digits write when they follow a number already read. -/
def natAfter? (radix : Nat) (acc : Nat) : List Char → Option Nat
  | [] => some acc
  | c :: rest => (digitValue? radix c).bind fun d => natAfter? radix (acc * radix + d) rest

/-- The number that one or more digits write. -/
def nat? (radix : Nat) : List Char → Option Nat
  | [] => none
  | cs => natAfter? radix 0 cs

/-- The number that decimal digits with at most one sign in front write. -/
def int? : List Char → Option Int
  | '+' :: rest => (nat? 10 rest).map fun n => (n : Int)
  | '-' :: rest => (nat? 10 rest).map fun n => -(n : Int)
  | cs => (nat? 10 cs).map fun n => (n : Int)

/-- The character of a digit below sixteen, letters in lower case. -/
def digitChar (d : Nat) : Char :=
  if d < 10 then Char.ofNat (0x30 + d) else Char.ofNat (0x57 + d)

/-- The digits of a number in a radix, most significant first. -/
def digits (radix : Nat) (n : Nat) : List Char :=
  if _h : n < radix ∨ radix < 2 then [digitChar n]
  else digits radix (n / radix) ++ [digitChar (n % radix)]
termination_by n
decreasing_by exact Nat.div_lt_self (by omega) (by omega)

/-- The decimal text of an integer. -/
def decimal (n : Int) : String :=
  if n < 0 then String.ofList ('-' :: digits 10 n.natAbs) else String.ofList (digits 10 n.natAbs)

/-- The last digits of a number, exactly as many as asked for, with leading zeros. -/
def paddedDigits (radix width : Nat) (n : Nat) : List Char :=
  match width with
  | 0 => []
  | w + 1 => paddedDigits radix w (n / radix) ++ [digitChar (n % radix)]

end DeployConfig.Text
