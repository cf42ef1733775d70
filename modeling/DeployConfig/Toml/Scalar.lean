/-
  Unquoted values of TOML: truth values, numbers, dates and times.

  Digits may be grouped by single underscores between them.  A decimal number has no leading zeros;
  hexadecimal, octal and binary numbers have no sign and may have them.
-/
import DeployConfig.Toml.DateTime
import DeployConfig.Toml.Item
import DeployConfig.Number.FixedWidth

namespace DeployConfig.Toml.Scalar

open DeployConfig.Text

/-- Digits of a radix without the underscores between them.  The flag says whether a digit has to
    come next. -/
def ungroup? (radix : Nat) : Bool → List Char → Option (List Char)
  | wanting, [] => if wanting then none else some []
  | wanting, c :: rest =>
    if c == '_' then (if wanting then none else ungroup? radix true rest)
    else if (digitValue? radix c).isSome then (ungroup? radix false rest).map (c :: ·)
    else none

/-- Whether decimal digits start with a zero that another digit follows. -/
def hasLeadingZero : List Char → Bool
  | '0' :: _ :: _ => true
  | _ => false

/-- The digits of a whole decimal number. -/
def wholeDigits? (cs : List Char) : Option (List Char) :=
  (ungroup? 10 true cs).filter fun digits => !hasLeadingZero digits

/-- A text without its sign, and whether the sign is a minus. -/
def splitSign : List Char → Bool × List Char
  | '+' :: cs => (false, cs)
  | '-' :: cs => (true, cs)
  | cs => (false, cs)

/-- A 64-bit integer. -/
def integerItem? (n : Int) : Option Item := (narrow Int64 n).toOption.map .integer

/-- A whole number in a radix named by a leading `0x`, `0o` or `0b`. -/
def radixInteger? (radix : Nat) (cs : List Char) : Option Item :=
  ((ungroup? radix true cs).bind (nat? radix)).bind fun n => integerItem? n

/-- A decimal whole number with at most one sign. -/
def decimalInteger? (cs : List Char) : Option Item :=
  let (negative, cs) := splitSign cs
  ((wholeDigits? cs).bind (nat? 10)).bind fun n =>
    integerItem? (if negative then -(n : Int) else n)

/-- A number that is finite. -/
def floatItem? (x : Binary64) : Option Item := if x.isFinite then some (.float x) else none

/-- The exponent of a decimal, without underscores. -/
def exponent? (cs : List Char) : Option Int :=
  let (negative, cs) := splitSign cs
  ((ungroup? 10 true cs).bind (nat? 10)).map fun n => if negative then -(n : Int) else n

/-- A decimal with a point, an exponent or both.  One too large for a finite number is an error. -/
def decimalFloat? (cs : List Char) : Option Item := do
  let (negative, cs) := splitSign cs
  let isMark (c : Char) : Bool := c == 'e' || c == 'E'
  let mantissa := cs.takeWhile fun c => !isMark c
  let tail := cs.dropWhile fun c => !isMark c
  let whole ← wholeDigits? (mantissa.takeWhile (· != '.'))
  let fraction ← match mantissa.dropWhile (· != '.') with
    | [] => some []
    | _ :: digits => ungroup? 10 true digits
  let exponent ← match tail with
    | [] => some 0
    | _ :: digits => exponent? digits
  let coefficient ← nat? 10 (whole ++ fraction)
  floatItem? (.ofDecimal negative coefficient (exponent - fraction.length))

/-- An infinity or the undefined number. -/
def specialFloat? (cs : List Char) : Option Item :=
  let (negative, cs) := splitSign cs
  if cs == ['i', 'n', 'f'] then some (.float (.infinite negative))
  else if cs == ['n', 'a', 'n'] then some (.float .nan)
  else none

/-- The value that an unquoted text stands for. -/
def ofText? (cs : List Char) : Option Item :=
  match cs with
  | ['t', 'r', 'u', 'e'] => some (.boolean true)
  | ['f', 'a', 'l', 's', 'e'] => some (.boolean false)
  | '0' :: 'x' :: digits => radixInteger? 16 digits
  | '0' :: 'o' :: digits => radixInteger? 8 digits
  | '0' :: 'b' :: digits => radixInteger? 2 digits
  | cs =>
    (decimalInteger? cs).orElse fun _ =>
      (specialFloat? cs).orElse fun _ =>
        ((DateTime.normalForm? cs).map fun t => Item.dateTime (String.ofList t)).orElse fun _ =>
          if cs.any fun c => c == '.' || c == 'e' || c == 'E' then decimalFloat? cs else none

end DeployConfig.Toml.Scalar
