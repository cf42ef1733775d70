/-
  Characters of YAML text with their places.

  The structure of YAML depends on lines and columns, so every character carries its place.  A line
  end of one or two characters counts as one line feed; the two Unicode separators end a line too
  but stay themselves.
-/

namespace DeployConfig.Yaml

/-- A place in a text. -/
structure Place where
  line : Nat := 0
  column : Nat := 0
  /-- The number of characters before it. -/
  index : Nat := 0
  deriving DecidableEq, Repr, Inhabited

/-- A character and the place where it stands. -/
structure Located where
  char : Char
  place : Place
  deriving DecidableEq, Repr, Inhabited

/-- The line and paragraph separators. -/
def isSeparator (c : Char) : Bool := c.toNat == 0x2028 || c.toNat == 0x2029

/-- The characters that end a line, once other line ends have become line feeds. -/
def isBreak (c : Char) : Bool := c == '\n' || isSeparator c

/-- Spaces and tabs. -/
def isBlank (c : Char) : Bool := c == ' ' || c == '\t'

/-- The characters that may stand in a document. -/
def isPrintable (c : Char) : Bool :=
  let n := c.toNat
  n == 0x09 || n == 0x0A || n == 0x0D || (0x20 ≤ n && n ≤ 0x7E) || n == 0x85
    || (0xA0 ≤ n && n ≤ 0xD7FF) || (0xE000 ≤ n && n ≤ 0xFFFD) || 0x10000 ≤ n

/-- The place after a line end of some characters. -/
def Place.nextLine (p : Place) (width : Nat) : Place := ⟨p.line + 1, 0, p.index + width⟩

/-- The place after a character that ends no line. -/
def Place.next (p : Place) : Place := ⟨p.line, p.column + 1, p.index + 1⟩

/-- The characters of a text that starts at a place, with their places, and the place after it. -/
def locate (p : Place) : List Char → List Located × Place
  | [] => ([], p)
  | '\r' :: '\n' :: rest =>
    let (others, last) := locate (p.nextLine 2) rest
    (⟨'\n', p⟩ :: others, last)
  | c :: rest =>
    if c == '\n' || c == '\r' || c.toNat == 0x85 then
      let (others, last) := locate (p.nextLine 1) rest
      (⟨'\n', p⟩ :: others, last)
    else
      let (others, last) := locate (if isSeparator c then p.nextLine 1 else p.next) rest
      (⟨c, p⟩ :: others, last)

/-- Whether text is at its end, or goes on with white space or a line end. -/
def endsHere : List Located → Bool
  | [] => true
  | c :: _ => isBlank c.char || isBreak c.char

/-- Whether text goes on with three times a character at the start of a line, and ends there. -/
def isMarker (c : Char) : List Located → Bool
  | a :: b :: d :: rest =>
    a.place.column == 0 && a.char == c && b.char == c && d.char == c && endsHere rest
  | _ => false

/-- Whether text goes on with the marker that starts or the one that ends a document. -/
def isDocumentMarker (cs : List Located) : Bool := isMarker '-' cs || isMarker '.' cs

/-- What follows the white space at the start. -/
def skipBlanks (cs : List Located) : List Located := cs.dropWhile fun c => isBlank c.char

/-- What follows the line at the start, without its line end. -/
def skipToBreak (cs : List Located) : List Located := cs.dropWhile fun c => !isBreak c.char

/-- What follows the end of a line that holds at most white space and a comment. -/
def skipLineEnd? (cs : List Located) : Option (List Located) :=
  let rest := match skipBlanks cs with
    | c :: rest => if c.char == '#' then skipToBreak rest else c :: rest
    | [] => []
  match rest with
  | [] => some []
  | c :: after => if isBreak c.char then some after else none

end DeployConfig.Yaml
