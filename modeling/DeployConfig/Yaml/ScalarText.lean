/-
  The text of YAML scalars.

  Plain and quoted scalars may run over several lines: a single line end between two words counts
  as a space, and of several line ends in a row all but the first stay.  Block scalars keep their
  lines, or fold them in the same way, after their indentation is taken off.
-/
import DeployConfig.Text.Integer
import DeployConfig.Yaml.Character

namespace DeployConfig.Yaml

/-! ## White space inside a scalar -/

/-- White space between two words of a scalar.  Texts are kept back to front. -/
structure Gap where
  /-- The white space of a gap on one line. -/
  blanks : List Char := []
  /-- Whether the gap holds a line end. -/
  broken : Bool := false
  /-- The first line end, unless a backslash takes it away. -/
  first : Option Char := none
  /-- The line ends after the first one. -/
  breaks : List Char := []
  deriving DecidableEq, Repr

/-- The gap with a further character. -/
def Gap.add (g : Gap) (c : Char) : Gap :=
  if !isBreak c then (if g.broken then g else { g with blanks := c :: g.blanks })
  else if g.broken then { g with breaks := c :: g.breaks }
  else { broken := true, first := some c }

/-- What a gap contributes to the text. -/
def Gap.folded (g : Gap) : List Char :=
  if !g.broken then g.blanks
  else match g.first with
    | none => g.breaks
    | some c =>
      if c == '\n' then (if g.breaks.isEmpty then [' '] else g.breaks)
      else g.breaks ++ [c]

/-! ## Plain scalars -/

/-- A scalar that was read: its text, whether a line end follows it, and the rest. -/
structure Plain where
  text : List Char
  broken : Bool
  rest : List Located

/-- The characters that end a plain scalar inside a flow collection. -/
def isFlowMark (c : Char) : Bool := [',', '[', ']', '\x7b', '\x7d'].contains c

/-- Whether a colon inside a flow collection stands where it may not. -/
def isStrayColon (c : Char) (rest : List Located) : Bool :=
  c == ':' && (rest.head?.any fun d => isFlowMark d.char || d.char == '?')

/-- The rest of a plain scalar that has to stay at or right of a column, after text and a gap kept
    back to front. -/
def plain? (flow : Bool) (column : Int) (text : List Char) (gap : Option Gap) :
    List Located → Option Plain
  | [] => some ⟨text.reverse, gap.any Gap.broken, []⟩
  | c :: rest =>
    if isBlank c.char || isBreak c.char then
      let g := gap.getD {}
      if g.broken && c.char == '\t' && c.place.column < column then none
      else plain? flow column text (some (g.add c.char)) rest
    else
      let ended : Bool := gap.isSome && ((!flow && c.place.column < column)
        || isDocumentMarker (c :: rest) || c.char == '#')
      if ended then some ⟨text.reverse, gap.any Gap.broken, c :: rest⟩
      else if flow && isStrayColon c.char rest then none
      else if (c.char == ':' && endsHere rest) || (flow && isFlowMark c.char) then
        some ⟨text.reverse, gap.any Gap.broken, c :: rest⟩
      else plain? flow column (c.char :: ((gap.map Gap.folded).getD [] ++ text)) none rest

/-! ## Quoted scalars -/

/-- What the character before means inside quotes. -/
inductive QuotedMode where
  | word
  | gap (gap : Gap)
  /-- A single quote, which ends the scalar unless another one follows. -/
  | quote
  /-- A backslash. -/
  | escape
  /-- The hexadecimal digits of an escape. -/
  | digits (left value : Nat)

/-- The character that one after a backslash stands for. -/
def escaped? (c : Char) : Option Char :=
  [('0', '\x00'), ('a', '\x07'), ('b', '\x08'), ('t', '\t'), ('\t', '\t'), ('n', '\n'),
    ('v', '\x0b'), ('f', '\x0c'), ('r', '\r'), ('e', '\x1b'), (' ', ' '), ('"', '"'), ('/', '/'),
    ('\\', '\\'), ('N', Char.ofNat 0x85), ('_', Char.ofNat 0xA0), ('L', Char.ofNat 0x2028),
    ('P', Char.ofNat 0x2029)].lookup c

/-- The number of hexadecimal digits that a letter after a backslash announces. -/
def digitCount? (c : Char) : Option Nat := [('x', 2), ('u', 4), ('U', 8)].lookup c

/-- The rest of a quoted scalar, after text kept back to front. -/
def quoted? (single : Bool) (mode : QuotedMode) (text : List Char) :
    List Located → Option (List Char × List Located)
  | [] =>
    match mode with
    | .quote => some (text.reverse, [])
    | _ => none
  | c :: rest =>
    match mode with
    | .quote =>
      if c.char == '\'' then quoted? single .word ('\'' :: text) rest
      else some (text.reverse, c :: rest)
    | .escape =>
      if isBreak c.char then quoted? single (.gap { broken := true }) text rest
      else match escaped? c.char with
        | some char => quoted? single .word (char :: text) rest
        | none => (digitCount? c.char).bind fun count =>
            quoted? single (.digits count 0) text rest
    | .digits left value =>
      (Text.digitValue? 16 c.char).bind fun digit =>
        let value := value * 16 + digit
        if 1 < left then quoted? single (.digits (left - 1) value) text rest
        else if value.isValidChar then quoted? single .word (Char.ofNat value :: text) rest
        else none
    | .gap g =>
      if isBlank c.char || isBreak c.char then quoted? single (.gap (g.add c.char)) text rest
      else if isDocumentMarker (c :: rest) then none
      else inWord (g.folded ++ text) c rest
    | .word =>
      if isBlank c.char || isBreak c.char then
        quoted? single (.gap (({} : Gap).add c.char)) text rest
      else inWord text c rest
where
  /-- The rest of a quoted scalar from a character that is no white space. -/
  inWord (text : List Char) (c : Located) (rest : List Located) :
      Option (List Char × List Located) :=
    if single then
      if c.char == '\'' then quoted? single .quote text rest
      else quoted? single .word (c.char :: text) rest
    else if c.char == '"' then some (text.reverse, rest)
    else if c.char == '\\' then quoted? single .escape text rest
    else quoted? single .word (c.char :: text) rest

/-! ## Block scalars -/

/-- What becomes of the line ends after a block scalar. -/
inductive Chomping where
  | strip
  | clip
  | keep
  deriving DecidableEq, Repr

/-- A block scalar read in part.  Texts are kept back to front. -/
structure BlockText where
  /-- The column of its lines, 0 as long as no line has shown it. -/
  indent : Nat
  text : List Char := []
  /-- The line end of the last line. -/
  lineBreak : Option Char := none
  /-- The line ends of the empty lines after it. -/
  breaks : List Char := []
  /-- Whether the last line starts with white space, and so is not folded. -/
  indented : Bool := false

/-- The block scalar at the start of a line that is not empty. -/
def BlockText.startLine (b : BlockText) (folded : Bool) (c : Char) : BlockText :=
  let indented := isBlank c
  let joint :=
    if folded && b.lineBreak == some '\n' && !b.indented && !indented then
      (if b.breaks.isEmpty then [' '] else [])
    else b.lineBreak.toList
  { b with text := c :: (b.breaks ++ joint ++ b.text), lineBreak := none, breaks := [], indented }

/-- The text of a block scalar that is complete. -/
def BlockText.finish (b : BlockText) : Chomping → List Char
  | .strip => b.text.reverse
  | .clip => (b.lineBreak.toList ++ b.text).reverse
  | .keep => (b.breaks ++ b.lineBreak.toList ++ b.text).reverse

/-- The rest of a block scalar.  Inside a line it goes on to the line end; otherwise it is in the
    indentation, with the widest one seen since the last line that is not empty. -/
def blockText? (folded : Bool) (parent : Int) (b : BlockText) (inLine : Bool) (widest : Nat) :
    List Located → Option (BlockText × List Located)
  | [] => some (b, [])
  | c :: rest =>
    if inLine then
      if isBreak c.char then
        blockText? folded parent { b with lineBreak := some c.char } false 0 rest
      else blockText? folded parent { b with text := c.char :: b.text } true 0 rest
    else
      let inside : Bool := b.indent == 0 || c.place.column < b.indent
      if inside && c.char == ' ' then blockText? folded parent b false widest rest
      else if inside && c.char == '\t' then none
      else
        let widest := max widest c.place.column
        if isBreak c.char then
          blockText? folded parent { b with breaks := c.char :: b.breaks } false widest rest
        else
          let indent := if b.indent == 0 then max (max widest (parent + 1).toNat) 1 else b.indent
          let b := { b with indent }
          if c.place.column == indent then
            blockText? folded parent (b.startLine folded c.char) true 0 rest
          else some (b, c :: rest)

/-- The indentation indicator and the chomping indicator of a block scalar, in either order, and
    the rest; no indentation indicator counts as 0. -/
def blockHeader? (cs : List Located) : Option (Nat × Chomping × List Located) :=
  let chomping? (c : Located) : Option Chomping :=
    if c.char == '+' then some .keep else if c.char == '-' then some .strip else none
  match cs with
  | [] => some (0, .clip, [])
  | c :: rest =>
    match chomping? c with
    | some chomping =>
      match rest with
      | d :: more => if d.char.isDigit then (width? d).map (·, chomping, more)
        else some (0, chomping, rest)
      | [] => some (0, chomping, [])
    | none =>
      if c.char.isDigit then (width? c).map fun width =>
        match rest with
        | d :: more =>
          match chomping? d with
          | some chomping => (width, chomping, more)
          | none => (width, .clip, rest)
        | [] => (width, .clip, [])
      else some (0, .clip, cs)
where
  /-- The number of an indentation indicator, which may not be zero. -/
  width? (c : Located) : Option Nat := if c.char == '0' then none else Text.digitValue? 10 c.char

/-- The text of a block scalar after its indicator, inside a block at a column, and the rest. -/
def block? (folded : Bool) (parent : Int) (cs : List Located) :
    Option (List Char × List Located) := do
  let (width, chomping, rest) ← blockHeader? cs
  let rest ← skipLineEnd? rest
  let indent := if width == 0 then 0 else (max parent 0).toNat + width
  let (b, rest) ← blockText? folded parent { indent } false 0 rest
  some (b.finish chomping, rest)

end DeployConfig.Yaml
