/-
  The values of YAML scalars.

  A plain scalar without a tag is read as null, a truth value, an integer or a floating-point
  number if it has the form of one, and otherwise as text.  Digits with a leading zero are text,
  and so is a number too large to be finite; an integer beyond 64 bits that still fits into 128 bits
  has no value.
-/
import DeployConfig.Yaml.Tree

namespace DeployConfig.Yaml.Scalar

open DeployConfig.Text

/-- The words for null. -/
def isNullWord (cs : List Char) : Bool :=
  ["null", "Null", "NULL", "~"].contains (String.ofList cs)

/-- The truth value that a word stands for. -/
def boolean? (cs : List Char) : Option Bool :=
  let word := String.ofList cs
  if ["true", "True", "TRUE"].contains word then some true
  else if ["false", "False", "FALSE"].contains word then some false
  else none

/-- A text without a sign at its start. -/
def withoutSign : List Char → List Char
  | '+' :: rest => rest
  | '-' :: rest => rest
  | cs => cs

/-- Whether a text is digits that start with a zero and are more than one. -/
def isZeroPadded (cs : List Char) : Bool :=
  match withoutSign cs with
  | '0' :: c :: rest => (c :: rest).all Char.isDigit
  | _ => false

/-- The integer that a text writes, of any size: decimal, or hexadecimal, octal or binary after a
    sign at most. -/
def integer? (cs : List Char) : Option Int :=
  match cs with
  | '-' :: rest => (magnitude? rest).map fun n => -(n : Int)
  | '+' :: rest => (magnitude? rest).map fun n => (n : Int)
  | rest => (magnitude? rest).map fun n => (n : Int)
where
  /-- The number that a text without a sign writes. -/
  magnitude? : List Char → Option Nat
    | '0' :: 'x' :: digits => nat? 16 digits
    | '0' :: 'o' :: digits => nat? 8 digits
    | '0' :: 'b' :: digits => nat? 2 digits
    | digits => if isZeroPadded digits then none else nat? 10 digits

/-- How a number that is written as an integer is taken. -/
inductive IntegerFit where
  | fits
  /-- It has no value. -/
  | tooWide
  /-- It is no integer at all. -/
  | huge

/-- How an integer is taken by its size. -/
def fit (n : Int) : IntegerFit :=
  if -9223372036854775808 ≤ n && n ≤ 18446744073709551615 then .fits
  else if -170141183460469231731687303715884105728 ≤ n
      && n ≤ 340282366920938463463374607431768211455 then .tooWide
  else .huge

/-- The floating-point number that a text writes. -/
def float? (cs : List Char) : Option Binary64 :=
  let word := String.ofList cs
  if [".inf", ".Inf", ".INF", "+.inf", "+.Inf", "+.INF"].contains word then some (.infinite false)
  else if ["-.inf", "-.Inf", "-.INF"].contains word then some (.infinite true)
  else if [".nan", ".NaN", ".NAN"].contains word then some .nan
  else (Binary64.ofText? cs).filter Binary64.isFinite

/-- The value of a plain scalar without a tag, unless it has none. -/
def plain? (cs : List Char) : Option Tree :=
  if cs.isEmpty || isNullWord cs then some .null
  else match boolean? cs with
    | some truth => some (.boolean truth)
    | none =>
      match (integer? cs).map fun n => (n, fit n) with
      | some (n, .fits) => some (.integer n)
      | some (_, .tooWide) => none
      | _ => some (other cs)
where
  /-- The value of a plain scalar that is no null, truth value or integer. -/
  other (cs : List Char) : Tree :=
    match if isZeroPadded cs then none else float? cs with
    | some x => .float x
    | none => .string (String.ofList cs)

/-- The tags that name a type of scalars begin in this way. -/
def coreTag (name : String) : List Char := ("tag:yaml.org,2002:" ++ name).toList

/-- The value of an integer scalar by its tag. -/
def taggedInteger? (cs : List Char) : Option Tree :=
  match (integer? cs).map fun n => (n, fit n) with
  | some (n, .fits) => some (.integer n)
  | _ => none

/-- The value of a scalar with a tag that does not start with an exclamation mark. -/
def withTag? (tag cs : List Char) : Option Tree :=
  if tag == coreTag "bool" then (boolean? cs).map .boolean
  else if tag == coreTag "int" then taggedInteger? cs
  else if tag == coreTag "float" then (float? cs).map .float
  else if tag == coreTag "null" then (if isNullWord cs then some .null else none)
  else some (.string (String.ofList cs))

end DeployConfig.Yaml.Scalar
