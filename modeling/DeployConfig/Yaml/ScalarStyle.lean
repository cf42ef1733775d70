/-
  How texts are written as scalars.

  A text is written plain if it then reads back as itself.  Otherwise it is quoted; one of several
  lines stands under a bar.  Which of these forms a text may take follows from its characters: only
  double quotes can hold every one.
-/
import DeployConfig.Yaml.Character
import DeployConfig.Yaml.Scalar

namespace DeployConfig.Yaml

/-- The forms of a scalar. -/
inductive ScalarStyle where
  | plain
  | singleQuoted
  | doubleQuoted
  | literal
  deriving DecidableEq, Repr

/-! ## What the characters allow -/

/-- The characters that are written as themselves.  Unlike in a document that is read, tabs and the
    characters beyond the first plane are not among them. -/
def isWritable (c : Char) : Bool :=
  let n := c.toNat
  n == 0x0A || (0x20 ≤ n && n ≤ 0x7E) || (0xA0 ≤ n && n ≤ 0xD7FF)
    || (0xE000 ≤ n && n ≤ 0xFFFD && n != 0xFEFF)

/-- The characters that end a line in some kind of text. -/
def endsLine (c : Char) : Bool := isBreak c || c == '\r' || c.toNat == 0x85

/-- Whether some character of one class is followed by one of another class. -/
def anyPair (first second : Char → Bool) : List Char → Bool
  | a :: b :: rest => (first a && second b) || anyPair first second (b :: rest)
  | _ => false

/-- Spaces. -/
def isSpace (c : Char) : Bool := c == ' '

/-- The characters that a plain scalar may not start with. -/
def isOpening (c : Char) : Bool :=
  ['#', ',', '[', ']', '\x7b', '\x7d', '&', '*', '!', '|', '>', '\'', '"', '%', '@',
    '\x60'].contains c

/-- Whether the start of a text would be taken for a mark. -/
def startsLikeMark : List Char → Bool
  | '-' :: '-' :: '-' :: _ => true
  | '.' :: '.' :: '.' :: _ => true
  | [c] => isOpening c || ['-', '?', ':'].contains c
  | c :: d :: _ => isOpening c || (['-', '?'].contains c && isSpace d)
  | [] => false

/-- Whether a text may be written plain: all of it shows, and nothing in it is taken for a mark. -/
def fitsPlain (cs : List Char) : Bool :=
  cs.all isWritable && !cs.any endsLine && !startsLikeMark cs
    && !cs.head?.any isSpace && !cs.getLast?.any isSpace
    && !anyPair (· == ':') isSpace cs && cs.getLast? != some ':'
    && !anyPair isSpace (· == '#') cs

/-- Whether a text may be written in single quotes: no line starts or ends with a space. -/
def fitsSingleQuotes (cs : List Char) : Bool :=
  cs.all isWritable && !anyPair isBreak isSpace cs && !anyPair isSpace isBreak cs

/-- Whether a text may be written under a bar: no line ends with a space. -/
def fitsLiteral (cs : List Char) : Bool :=
  cs.all isWritable && !anyPair isSpace isBreak cs && !cs.getLast?.any isSpace

/-- Whether a plain scalar is read as the text it writes.  Digits after a zero are, but they look
    like a number. -/
def readsAsText (cs : List Char) : Bool :=
  match Scalar.plain? cs with
  | some (.string _) => !Scalar.isZeroPadded cs
  | _ => false

/-- The form in which a text is written. -/
def ScalarStyle.ofText (cs : List Char) : ScalarStyle :=
  if cs.contains '\n' then if fitsLiteral cs then literal else doubleQuoted
  else if readsAsText cs && fitsPlain cs then plain
  else if fitsSingleQuotes cs then singleQuoted
  else doubleQuoted

/-! ## The forms -/

/-- A character as single quotes hold it. -/
def singleQuotedChar (c : Char) : List Char := if c == '\'' then ['\'', '\''] else [c]

/-- The letters of the escapes that have one. -/
def escapeLetters : List (Nat × Char) :=
  [(0x00, '0'), (0x07, 'a'), (0x08, 'b'), (0x09, 't'), (0x0A, 'n'), (0x0B, 'v'), (0x0C, 'f'),
    (0x0D, 'r'), (0x1B, 'e'), (0x22, '"'), (0x5C, '\\'), (0x85, 'N'), (0x2028, 'L'), (0x2029, 'P')]

/-- The hexadecimal digits of a number in upper case. -/
def hexDigits (width n : Nat) : List Char := (Text.paddedDigits 16 width n).map Char.toUpper

/-- A character as double quotes hold it. -/
def doubleQuotedChar (c : Char) : List Char :=
  let n := c.toNat
  match escapeLetters.lookup n with
  | some letter => ['\\', letter]
  | none =>
    if isWritable c then [c]
    else if n ≤ 0xFF then '\\' :: 'x' :: hexDigits 2 n
    else if n ≤ 0xFFFF then '\\' :: 'u' :: hexDigits 4 n
    else '\\' :: 'U' :: hexDigits 8 n

/-- What is said behind the bar: that the first line starts with white space, and whether the line
    end behind the last line belongs to the text, alone or with others. -/
def literalHints (cs : List Char) : List Char :=
  let indent : List Char := if cs.head?.any fun c => isSpace c || isBreak c then ['2'] else []
  let chomp : List Char := match cs.reverse with
    | [] => ['-']
    | [last] => if isBreak last then ['+'] else ['-']
    | last :: before :: _ =>
      if !isBreak last then ['-'] else if isBreak before then ['+'] else []
  indent ++ chomp

/-- The scalar that writes a text, without indentation and with the line end behind it. -/
def scalarText (cs : List Char) : List Char :=
  match ScalarStyle.ofText cs with
  | .plain => cs ++ ['\n']
  | .singleQuoted => '\'' :: cs.flatMap singleQuotedChar ++ ['\'', '\n']
  | .doubleQuoted => '"' :: cs.flatMap doubleQuotedChar ++ ['"', '\n']
  | .literal =>
    '|' :: literalHints cs ++ '\n' :: cs ++ (if cs.getLast?.any isBreak then [] else ['\n'])

end DeployConfig.Yaml
