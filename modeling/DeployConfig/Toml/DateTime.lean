/-
  Dates and times.

  A date, a time of day, or both with an optional offset from UTC.  The normal form has a capital
  `T` and `Z`, and a fraction of at most nine digits without trailing zeros.
-/
import DeployConfig.Text.Integer

namespace DeployConfig.Toml.DateTime

open DeployConfig.Text

/-- The number that exactly so many decimal digits at the start write, and what follows them. -/
def number? (count : Nat) (cs : List Char) : Option (Nat × List Char) :=
  let digits := cs.take count
  if digits.length == count then (nat? 10 digits).map fun n => (n, cs.drop count) else none

/-- What follows a character that has to stand at the start. -/
def skip? (c : Char) : List Char → Option (List Char)
  | [] => none
  | first :: rest => if first == c then some rest else none

/-- Whether the Gregorian calendar gives a year a leap day. -/
def isLeap (year : Nat) : Bool := year % 4 == 0 && (year % 100 != 0 || year % 400 == 0)

/-- The number of days of a month. -/
def daysIn (year month : Nat) : Nat :=
  if month == 2 then (if isLeap year then 29 else 28)
  else if month == 4 || month == 6 || month == 9 || month == 11 then 30
  else 31

/-- Two decimal digits. -/
def two (n : Nat) : List Char := paddedDigits 10 2 n

/-- A date at the start: its normal form and what follows. -/
def date? (cs : List Char) : Option (List Char × List Char) := do
  let (year, cs) ← number? 4 cs
  let (month, cs) ← number? 2 (← skip? '-' cs)
  let (day, cs) ← number? 2 (← skip? '-' cs)
  if 1 ≤ month && month ≤ 12 && 1 ≤ day && day ≤ daysIn year month then
    some (paddedDigits 10 4 year ++ '-' :: two month ++ '-' :: two day, cs)
  else none

/-- The normal form of the digits of a fraction. -/
def fraction (digits : List Char) : List Char :=
  match ((digits.take 9).reverse.dropWhile (· == '0')).reverse with
  | [] => ['.', '0']
  | kept => '.' :: kept

/-- The fraction of a second at the start, if there is one, and what follows. -/
def fraction? : List Char → Option (List Char × List Char)
  | '.' :: cs =>
    let digits := cs.takeWhile Char.isDigit
    if digits.isEmpty then none else some (fraction digits, cs.dropWhile Char.isDigit)
  | cs => some ([], cs)

/-- A time of day at the start: its normal form and what follows.  Seconds may be left out. -/
def time? (cs : List Char) : Option (List Char × List Char) := do
  let (hour, cs) ← number? 2 cs
  let (minute, cs) ← number? 2 (← skip? ':' cs)
  guard (hour ≤ 23 && minute ≤ 59)
  let minutes := two hour ++ ':' :: two minute
  match cs with
  | ':' :: cs =>
    let (second, cs) ← number? 2 cs
    guard (second ≤ 60)
    let (part, cs) ← fraction? cs
    some (minutes ++ ':' :: two second ++ part, cs)
  | cs => some (minutes, cs)

/-- An offset from UTC, or nothing. -/
def offset? : List Char → Option (List Char)
  | [] => some []
  | [c] => if c == 'Z' || c == 'z' then some ['Z'] else none
  | c :: cs => do
    guard (c == '+' || c == '-')
    let (hour, cs) ← number? 2 cs
    let (minute, cs) ← number? 2 (← skip? ':' cs)
    guard (hour ≤ 23 && minute ≤ 59 && cs.isEmpty)
    let shown := if hour == 0 && minute == 0 then '+' else c
    some (shown :: two hour ++ ':' :: two minute)

/-- Whether a character may stand between a date and a time. -/
def isSeparator (c : Char) : Bool := c == 'T' || c == 't' || c == ' '

/-- The normal form of a text that is a date, a time, or both. -/
def normalForm? (cs : List Char) : Option (List Char) :=
  match date? cs with
  | some (date, []) => some date
  | some (date, c :: cs) => do
    guard (isSeparator c)
    let (time, cs) ← time? cs
    let offset ← offset? cs
    some (date ++ 'T' :: time ++ offset)
  | none => do
    let (time, cs) ← time? cs
    guard cs.isEmpty
    some time

end DeployConfig.Toml.DateTime
