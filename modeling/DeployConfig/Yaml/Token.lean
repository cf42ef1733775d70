/-
  Tokens of YAML text.

  The reader keeps the columns of the open blocks and, for each open flow collection, the place of
  a text that may turn out to be a key.  A colon after such a text puts the tokens of the key, and
  of the mapping that it starts, in front of it; a text at a lower column ends blocks.
-/
import DeployConfig.Yaml.ScalarText

namespace DeployConfig.Yaml

/-- A token of YAML text. -/
inductive Token where
  | version (major minor : Nat)
  /-- A directive that gives a handle of tags a meaning. -/
  | tagDirective (handle meaning : List Char)
  | documentStart
  | documentEnd
  | blockSequenceStart
  | blockMappingStart
  | blockEnd
  | flowSequenceStart
  | flowSequenceEnd
  | flowMappingStart
  | flowMappingEnd
  | blockEntry
  | flowEntry
  | key
  | value
  | reference (name : List Char)
  | anchor (name : List Char)
  | tag (handle suffix : List Char)
  | scalar (text : List Char) (plain : Bool)
  deriving DecidableEq, Repr

/-! ## Names, tags and directives -/

/-- The characters of names: letters, digits, dashes and underscores of ASCII. -/
def isNameChar (c : Char) : Bool := c.isAlphanum || c == '-' || c == '_'

/-- The name at the start, and what follows it. -/
def spanName (cs : List Located) : List Char × List Located :=
  ((cs.takeWhile fun c => isNameChar c.char).map Located.char,
    cs.dropWhile fun c => isNameChar c.char)

/-- The marks that may follow a name. -/
def afterName : List Char := ['?', ':', ',', ']', '\x7d', '%', '@', '\x60']

/-- Whether a name may end here. -/
def nameEndsHere (cs : List Located) : Bool :=
  endsHere cs || (cs.head?.any fun c => afterName.contains c.char)

/-- The name of an anchor, and what follows it. -/
def anchorName? (cs : List Located) : Option (List Char × List Located) :=
  let (name, rest) := spanName cs
  if name.isEmpty || !nameEndsHere rest then none else some (name, rest)

/-- The marks that may stand in a tag. -/
def tagMarks : List Char :=
  [';', '/', '?', ':', '@', '&', '=', '+', '$', '.', '%', '!', '~', '*', '\'', '(', ')']

/-- The characters of tags; those that mark flow collections only in some places. -/
def isTagChar (flowMarks : Bool) (c : Char) : Bool :=
  isNameChar c || tagMarks.contains c
    || (flowMarks && [',', '[', ']'].contains c)

/-- The number of bytes that a first byte of UTF-8 announces after it. -/
def continuations? (byte : Nat) : Option Nat :=
  if byte < 0x80 then some 0
  else if 0xC0 ≤ byte && byte < 0xE0 then some 1
  else if 0xE0 ≤ byte && byte < 0xF0 then some 2
  else if 0xF0 ≤ byte && byte < 0xF8 then some 3
  else none

/-- What is left of the escape of a character in a tag. -/
inductive TagMode where
  | start
  /-- Text without escape may follow. -/
  | text
  /-- The first digit of a byte, of a character of which so many bytes are missing. -/
  | high (left value : Nat) (first : Bool)
  /-- The second digit of a byte. -/
  | low (left value digit : Nat) (first : Bool)
  /-- The percent sign of a further byte. -/
  | percent (left value : Nat)

/-- The value of the bits that a first byte of UTF-8 adds to its character. -/
def leadingBits (byte : Nat) : Nat :=
  if byte < 0x80 then byte
  else if byte < 0xE0 then byte % 0x20
  else if byte < 0xF0 then byte % 0x10
  else byte % 0x08

/-- The characters of a tag from here on, with escaped bytes decoded, and what follows them. -/
def tagText? (flowMarks : Bool) (mode : TagMode) (text : List Char) :
    List Located → Option (List Char × List Located)
  | [] =>
    match mode with
    | .text => some (text.reverse, [])
    | _ => none
  | c :: rest =>
    match mode with
    | .percent left value =>
      if c.char == '%' then tagText? flowMarks (.high left value false) text rest else none
    | .high left value first =>
      (Text.digitValue? 16 c.char).bind fun digit =>
        tagText? flowMarks (.low left value digit first) text rest
    | .low left value high first =>
      (Text.digitValue? 16 c.char).bind fun digit =>
        let byte := high * 16 + digit
        if first then (continuations? byte).bind fun count =>
          if count == 0 then tagText? flowMarks .text (Char.ofNat byte :: text) rest
          else tagText? flowMarks (.percent count (leadingBits byte)) text rest
        else if byte / 0x40 != 2 then none
        else
          let value := value * 0x40 + byte % 0x40
          if left ≤ 1 then tagText? flowMarks .text (Char.ofNat value :: text) rest
          else tagText? flowMarks (.percent (left - 1) value) text rest
    | .start =>
      if c.char == '%' then tagText? flowMarks (.high 0 0 true) text rest
      else if isTagChar flowMarks c.char then tagText? flowMarks .text (c.char :: text) rest
      else none
    | .text =>
      if c.char == '%' then tagText? flowMarks (.high 0 0 true) text rest
      else if isTagChar flowMarks c.char then tagText? flowMarks .text (c.char :: text) rest
      else some (text.reverse, c :: rest)

/-- The handle of a tag after its exclamation mark: a name and maybe a second mark. -/
def tagHandle (cs : List Located) : List Char × List Located :=
  let (name, rest) := spanName cs
  match rest with
  | c :: more => if c.char == '!' then ('!' :: name ++ ['!'], more) else ('!' :: name, rest)
  | [] => ('!' :: name, [])

/-- Whether a tag may end here. -/
def tagEndsHere (flow : Bool) (cs : List Located) : Bool :=
  endsHere cs || (flow && (cs.head?.any fun c => c.char == ','))

/-- A tag after its exclamation mark: one between angle brackets, one with a handle of its own, or
    one with the handle `!`; a lone mark is a tag without handle. -/
def tag? (flow : Bool) (cs : List Located) : Option (Token × List Located) := do
  let (token, rest) ← match cs with
    | c :: more =>
      if c.char == '<' then do
        let (suffix, rest) ← tagText? true .start [] more
        match rest with
        | d :: rest => if d.char == '>' then some (Token.tag [] suffix, rest) else none
        | [] => none
      else short cs
    | [] => short cs
  if tagEndsHere flow rest then some (token, rest) else none
where
  /-- A tag with a handle. -/
  short (cs : List Located) : Option (Token × List Located) :=
    let (handle, rest) := tagHandle cs
    if 1 < handle.length && handle.getLast? == some '!' then do
      let (suffix, rest) ← tagText? false .start [] rest
      some (.tag handle suffix, rest)
    else do
      let (suffix, rest) ← tagText? false .text (handle.drop 1).reverse rest
      some (if suffix.isEmpty then .tag [] ['!'] else .tag ['!'] suffix, rest)

/-- A number of at most nine digits at the start, and what follows it. -/
def versionNumber? (cs : List Located) : Option (Nat × List Located) :=
  let digits := (cs.takeWhile fun c => c.char.isDigit).map Located.char
  if 9 < digits.length then none
  else (Text.nat? 10 digits).map fun n => (n, cs.dropWhile fun c => c.char.isDigit)

/-- The directive after a percent sign at the start of a line, and the lines after it. -/
def directive? (cs : List Located) : Option (Token × List Located) := do
  let (name, rest) := spanName cs
  guard (!name.isEmpty && endsHere rest)
  let rest := skipBlanks rest
  let (token, rest) ←
    if name == ['Y', 'A', 'M', 'L'] then do
      let (major, rest) ← versionNumber? rest
      let (minor, rest) ← versionNumber? (← afterChar? '.' rest)
      some (Token.version major minor, rest)
    else if name == ['T', 'A', 'G'] then do
      let (handle, rest) := tagHandle (← afterChar? '!' rest)
      guard (handle == ['!'] || handle.getLast? == some '!')
      guard (rest.head?.any fun c => isBlank c.char)
      let (meaning, rest) ← tagText? true .start [] (skipBlanks rest)
      guard (endsHere rest)
      some (.tagDirective handle meaning, rest)
    else none
  some (token, ← skipLineEnd? rest)
where
  /-- What follows a character that has to stand at the start. -/
  afterChar? (c : Char) : List Located → Option (List Located)
    | [] => none
    | d :: rest => if d.char == c then some rest else none

/-! ## The reader -/

/-- A text that may turn out to be a key. -/
structure PossibleKey where
  place : Place
  /-- The number of tokens before it. -/
  position : Nat
  /-- Whether nothing but a key may stand there. -/
  required : Bool
  deriving DecidableEq, Repr

/-- A text whose tokens are read in part. -/
structure Scanner where
  rest : List Located
  /-- The place after the last character. -/
  last : Place
  /-- The tokens, back to front, and their number. -/
  tokens : List Token := []
  count : Nat := 0
  /-- The column of the innermost block, and those of the blocks around it. -/
  indent : Int := -1
  outer : List Int := []
  /-- The possible keys: of the innermost flow collection, of those around it, of the block. -/
  key : Option PossibleKey := none
  outerKeys : List (Option PossibleKey) := []
  /-- Whether a key may start here. -/
  keyAllowed : Bool := true

namespace Scanner

/-- Whether the reader is inside a flow collection. -/
def inFlow (s : Scanner) : Bool := !s.outerKeys.isEmpty

/-- The place of the next character. -/
def place (s : Scanner) : Place :=
  match s.rest with
  | [] => s.last
  | c :: _ => c.place

/-- The reader with a further token. -/
def emit (s : Scanner) (token : Token) : Scanner :=
  { s with tokens := token :: s.tokens, count := s.count + 1 }

/-- The reader with a token put in at a position. -/
def insert (s : Scanner) (position : Nat) (token : Token) : Scanner :=
  let after := s.count - position
  { s with tokens := s.tokens.take after ++ token :: s.tokens.drop after, count := s.count + 1 }

/-- What follows white space, comments and line ends.  A line end lets a key start, outside of flow
    collections.  Tabs count as white space only where no key may start. -/
def skipToToken (flow keyAllowed inComment : Bool) : List Located → List Located × Bool
  | [] => ([], keyAllowed)
  | c :: rest =>
    if isBreak c.char then skipToToken flow (keyAllowed || !flow) false rest
    else if inComment || c.char == '#' then skipToToken flow keyAllowed true rest
    else if c.char == ' ' || (c.char == '\t' && (flow || !keyAllowed))
        || (c.place.index == 0 && c.char == '\uFEFF') then
      skipToToken flow keyAllowed false rest
    else (c :: rest, keyAllowed)

/-- A possible key has to stand on the line where its colon does, at most 1024 characters away. -/
def isStale (p : Place) (key : PossibleKey) : Bool :=
  key.place.line < p.line || key.place.index + 1024 < p.index

/-- A possible key given up; a required one may not be. -/
def giveUp? : Option PossibleKey → Option (Option PossibleKey)
  | some key => if key.required then none else some none
  | none => some none

/-- The reader without the possible keys that are too far away. -/
def dropStaleKeys? (s : Scanner) : Option Scanner := do
  let drop (key : Option PossibleKey) : Option (Option PossibleKey) :=
    if key.any (isStale s.place) then giveUp? key else some key
  some { s with key := ← drop s.key, outerKeys := ← s.outerKeys.mapM drop }

/-- The reader without the possible key of the innermost collection. -/
def dropKey? (s : Scanner) : Option Scanner := do some { s with key := ← giveUp? s.key }

/-- The reader with a possible key at the next character, if one may start there. -/
def noteKey? (s : Scanner) : Option Scanner :=
  if s.keyAllowed then do
    let required : Bool := !s.inFlow && s.indent == s.place.column
    let s ← s.dropKey?
    some { s with key := some ⟨s.place, s.count, required⟩ }
  else some s

/-- The reader with the blocks to the right of a column ended. -/
def unroll (s : Scanner) (column : Int) : Scanner :=
  if s.inFlow then s else close s.outer s
where
  /-- The reader with as many of the given blocks ended as lie to the right. -/
  close : List Int → Scanner → Scanner
    | [], s => s
    | around :: outer, s =>
      if s.indent > column then close outer { s.emit .blockEnd with indent := around, outer }
      else s

/-- The reader with a block at a column, whose first token is put in at a position, unless there is
    one that far to the right. -/
def roll (s : Scanner) (column position : Nat) (token : Token) : Scanner :=
  if s.inFlow || (column : Int) ≤ s.indent then s
  else { s.insert position token with indent := column, outer := s.indent :: s.outer }

/-- The reader after a token of so many characters. -/
def take (s : Scanner) (width : Nat) (token : Token) : Scanner :=
  { s.emit token with rest := s.rest.drop width }

/-- The reader at the end of the text: all blocks end. -/
def finish? (s : Scanner) : Option (List Token) := do
  let s ← (s.unroll (-1)).dropKey?
  some s.tokens.reverse

/-- The reader after the marker of a document's start or end, or after a directive. -/
def document? (s : Scanner) (read : List Located → Option (Token × List Located)) :
    Option Scanner := do
  let s ← (s.unroll (-1)).dropKey?
  let (token, rest) ← read s.rest
  some { s.emit token with rest, keyAllowed := false }

/-- The reader after the start of a flow collection. -/
def flowStart? (s : Scanner) (token : Token) : Option Scanner := do
  let s ← s.noteKey?
  some { s.take 1 token with key := none, outerKeys := s.key :: s.outerKeys, keyAllowed := true }

/-- The reader after the end of a flow collection. -/
def flowEnd? (s : Scanner) (token : Token) : Option Scanner := do
  let s ← s.dropKey?
  let s := { s.take 1 token with keyAllowed := false }
  match s.outerKeys with
  | [] => some s
  | key :: outerKeys => some { s with key, outerKeys }

/-- The reader after a comma of a flow collection. -/
def flowEntry? (s : Scanner) : Option Scanner := do
  let s ← s.dropKey?
  some { s.take 1 .flowEntry with keyAllowed := true }

/-- The reader after the dash of a sequence. -/
def blockEntry? (s : Scanner) : Option Scanner := do
  guard (s.inFlow || s.keyAllowed)
  let s ← (s.roll s.place.column s.count .blockSequenceStart).dropKey?
  some { s.take 1 .blockEntry with keyAllowed := true }

/-- The reader after the question mark of a key. -/
def keyMark? (s : Scanner) : Option Scanner := do
  guard (s.inFlow || s.keyAllowed)
  let s ← (s.roll s.place.column s.count .blockMappingStart).dropKey?
  some { s.take 1 .key with keyAllowed := !s.inFlow }

/-- The reader after the colon of a value. -/
def valueMark? (s : Scanner) : Option Scanner :=
  match s.key with
  | some key =>
    let s := s.insert key.position .key
    let s := s.roll key.place.column key.position .blockMappingStart
    some { s.take 1 .value with key := none, keyAllowed := false }
  | none => do
    guard (s.inFlow || s.keyAllowed)
    let s := s.roll s.place.column s.count .blockMappingStart
    some { s.take 1 .value with keyAllowed := !s.inFlow }

/-- The reader after a token that may be, or may belong to, a key. -/
def inKey? (s : Scanner) (read : List Located → Option (Token × List Located)) :
    Option Scanner := do
  let s ← s.noteKey?
  let (token, rest) ← read (s.rest.drop 1)
  some { s.emit token with rest, keyAllowed := false }

/-- The reader after a block scalar. -/
def blockScalar? (s : Scanner) (folded : Bool) : Option Scanner := do
  let s ← s.dropKey?
  let (text, rest) ← block? folded s.indent (s.rest.drop 1)
  some { s.emit (.scalar text false) with rest, keyAllowed := true }

/-- The reader after a plain scalar. -/
def plainScalar? (s : Scanner) : Option Scanner := do
  let s ← s.noteKey?
  let found ← plain? s.inFlow (s.indent + 1) [] none s.rest
  some { s.emit (.scalar found.text true) with rest := found.rest, keyAllowed := found.broken }

/-- The characters that no plain scalar starts with, unless they are followed by text. -/
def isIndicator (c : Char) : Bool :=
  ['-', '?', ':', ',', '[', ']', '\x7b', '\x7d', '#', '&', '*', '!', '|', '>', '\'', '"', '%', '@',
    '\x60'].contains c

/-- Whether a plain scalar may start with a character that some text follows. -/
def startsPlain (flow : Bool) (c : Char) (rest : List Located) : Bool :=
  (!isBlank c && !isBreak c && !isIndicator c)
    || (c == '-' && !(rest.head?.any fun d => isBlank d.char))
    || (!flow && (c == '?' || c == ':') && !endsHere rest)

/-- The reader after the token that the next character starts. -/
def fetch? (s : Scanner) (c : Located) (rest : List Located) : Option Scanner :=
  let here := c.place.column == 0
  let marker (token : Token) (cs : List Located) : Option (Token × List Located) :=
    some (token, cs.drop 3)
  let quotedToken (single : Bool) (cs : List Located) : Option (Token × List Located) :=
    (quoted? single .word [] cs).map fun (text, rest) => (.scalar text false, rest)
  let named (token : List Char → Token) (cs : List Located) : Option (Token × List Located) :=
    (anchorName? cs).map fun (name, rest) => (token name, rest)
  if here && c.char == '%' then s.document? fun cs => directive? (cs.drop 1)
  else if isMarker '-' (c :: rest) then s.document? (marker .documentStart)
  else if isMarker '.' (c :: rest) then s.document? (marker .documentEnd)
  else if c.char == '[' then s.flowStart? .flowSequenceStart
  else if c.char == '\x7b' then s.flowStart? .flowMappingStart
  else if c.char == ']' then s.flowEnd? .flowSequenceEnd
  else if c.char == '\x7d' then s.flowEnd? .flowMappingEnd
  else if c.char == ',' then s.flowEntry?
  else if c.char == '-' && endsHere rest then s.blockEntry?
  else if c.char == '?' && (s.inFlow || endsHere rest) then s.keyMark?
  else if c.char == ':' && (s.inFlow || endsHere rest) then s.valueMark?
  else if c.char == '*' then s.inKey? (named .reference)
  else if c.char == '&' then s.inKey? (named .anchor)
  else if c.char == '!' then s.inKey? (tag? s.inFlow)
  else if c.char == '|' && !s.inFlow then s.blockScalar? false
  else if c.char == '>' && !s.inFlow then s.blockScalar? true
  else if c.char == '\'' then s.inKey? (quotedToken true)
  else if c.char == '"' then s.inKey? (quotedToken false)
  else if startsPlain s.inFlow c.char rest then s.plainScalar?
  else none

/-- The tokens that are left, read in at most so many steps. -/
def run? : Nat → Scanner → Option (List Token)
  | 0, _ => none
  | steps + 1, s => do
    let (rest, keyAllowed) := skipToToken s.inFlow s.keyAllowed false s.rest
    let s ← { s with rest, keyAllowed }.dropStaleKeys?
    let s := s.unroll s.place.column
    match s.rest with
    | [] => s.finish?
    | c :: rest => (← s.fetch? c rest).run? steps

end Scanner

/-- The tokens of a text.  Each step of the reader takes at least one character, so there are never
    more steps than characters and the end. -/
def Token.read? (cs : List Char) : Option (List Token) :=
  if cs.all isPrintable then
    let (located, last) := locate {} cs
    Scanner.run? (located.length + 1) { rest := located, last }
  else none

end DeployConfig.Yaml
