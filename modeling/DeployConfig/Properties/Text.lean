/-
  Properties text.

  A text holds one entry per logical line.  A logical line starts at a line that is neither blank
  nor a comment, and takes in the next physical line as long as it ends in an odd number of
  backslashes.  An entry is a key, a separator (`=`, `:` or white space) and a value; a backslash
  takes the special meaning from the character after it or gives it one (`\n`, `\u0041`).
-/
import DeployConfig.Text.Blank
import DeployConfig.Text.Integer
import DeployConfig.Text.Lines

namespace DeployConfig.Properties

open DeployConfig.Text

/-! ## Logical lines -/

/-- Whether a line whose start is trimmed holds nothing or a comment. -/
def isSkipped : List Char → Bool
  | [] => true
  | c :: _ => c == '#' || c == '!'

/-- Whether a line goes on in the next one: it ends in an odd number of backslashes. -/
def continues (line : List Char) : Bool :=
  (line.reverse.takeWhile (· == '\\')).length % 2 == 1

/-- The logical lines of physical lines, the first of which continues the pending text if there is
    one.  Pending text has already lost the backslash that made it continue. -/
def logicalLines (pending : Option (List Char)) : List (List Char) → List (List Char)
  | [] => pending.toList
  | line :: rest =>
    let piece := trimStart line
    if pending.isNone && isSkipped piece then logicalLines none rest
    else
      let joined := pending.getD [] ++ piece
      if continues joined then logicalLines (some joined.dropLast) rest
      else joined :: logicalLines none rest

/-! ## Entries -/

/-- White space that separates a key from its value. -/
def isGap (c : Char) : Bool := c == ' ' || c == '\t' || c == '\x0c'

/-- A character that assigns a value to a key. -/
def isAssign (c : Char) : Bool := c == '=' || c == ':'

/-- A logical line split in front of the first separator that no backslash escapes. -/
def splitKey : List Char → List Char × List Char
  | [] => ([], [])
  | ['\\'] => (['\\'], [])
  | '\\' :: c :: rest =>
    let (key, tail) := splitKey rest
    ('\\' :: c :: key, tail)
  | c :: rest =>
    if isGap c || isAssign c then ([], c :: rest)
    else
      let (key, tail) := splitKey rest
      (c :: key, tail)

/-- The value that follows a key: white space goes, and so does one assigning character with the
    white space after it. -/
def valuePart (tail : List Char) : List Char :=
  match tail.dropWhile isGap with
  | [] => []
  | c :: rest => if isAssign c then rest.dropWhile isGap else c :: rest

/-- The character with a number, if there is one. -/
def charOfNat? (n : Nat) : Option Char := if n.isValidChar then some (Char.ofNat n) else none

/-- The number that hexadecimal digits with at most a plus sign in front write. -/
def codePoint? : List Char → Option Nat
  | '+' :: digits => nat? 16 digits
  | digits => nat? 16 digits

/-- What the characters after `\u` stand for: the character with the number they write, and
    otherwise a `u` and themselves. -/
def decodeUnicode (digits : List Char) : List Char :=
  match (codePoint? digits).bind charOfNat? with
  | some c => [c]
  | none => 'u' :: digits

/-- What a character after a backslash stands for, `u` excepted. -/
def decodeEscape (c : Char) : Char :=
  if c == 't' then '\t'
  else if c == 'n' then '\n'
  else if c == 'r' then '\r'
  else if c == 'f' then '\x0c'
  else c

/-- Text with every escape decoded; a lone backslash at the end goes. -/
def unescape : List Char → List Char
  | [] => []
  | ['\\'] => []
  | '\\' :: 'u' :: rest => decodeUnicode (rest.take 4) ++ unescape (rest.drop 4)
  | '\\' :: c :: rest => decodeEscape c :: unescape rest
  | c :: rest => c :: unescape rest
termination_by cs => cs.length
decreasing_by all_goals simp only [List.length_cons, List.length_drop]; omega

/-- The entry that a logical line writes. -/
def entry (line : List Char) : String × String :=
  let (key, tail) := splitKey line
  (String.ofList (unescape key), String.ofList (unescape (valuePart tail)))

/-- The entries of a text in the order written, keys that occur again included. -/
def parse (text : String) : List (String × String) :=
  (logicalLines none (lines text.toList)).map entry

end DeployConfig.Properties
