/-
  Tokens of TOML text.

  Text is read one character at a time.  A mode remembers what the characters before mean, so each
  step either goes on in some mode, with the tokens completed by the step, or rejects the text.
  Comments leave no token.
-/
import DeployConfig.Text.Integer

namespace DeployConfig.Toml

/-- A token of TOML text. -/
inductive Token where
  /-- One space or tab. -/
  | blank
  | newline
  | dot
  | equals
  | comma
  | openBracket
  | closeBracket
  | openBrace
  | closeBrace
  /-- Unquoted text. -/
  | word (text : List Char)
  /-- Quoted text with its escapes decoded, on one line or on several. -/
  | quoted (multiline : Bool) (text : List Char)
  deriving DecidableEq, Repr

/-- The two styles of quotes: between double quotes a backslash starts an escape. -/
inductive Quote where
  | basic
  | literal
  deriving DecidableEq, Repr

/-- The character of a quote. -/
def Quote.char : Quote → Char
  | basic => '"'
  | literal => '\''

/-- What the characters read so far mean for the next one.  Text collected so far is kept back to
    front. -/
inductive Mode where
  /-- Between tokens. -/
  | between
  /-- After a carriage return, which a line feed has to follow. -/
  | returned
  | comment
  /-- In a comment, after a carriage return. -/
  | commentReturned
  | word (text : List Char)
  /-- After one quote. -/
  | opened (quote : Quote)
  /-- After two quotes: empty text, unless a third one follows. -/
  | openedTwice (quote : Quote)
  /-- In text on one line. -/
  | line (quote : Quote) (text : List Char)
  /-- At the start of text on several lines, where a line end does not count. -/
  | multilineStart (quote : Quote)
  /-- There, after a carriage return. -/
  | multilineStartReturned (quote : Quote)
  /-- In text on several lines, after some quotes that may end it. -/
  | multiline (quote : Quote) (text : List Char) (quotes : Nat)
  /-- There, after a carriage return, which a line feed has to follow. -/
  | multilineReturned (quote : Quote) (text : List Char)
  /-- After a backslash. -/
  | escape (several : Bool) (text : List Char)
  /-- Inside the digits of an escape. -/
  | digits (several : Bool) (text : List Char) (left value : Nat)
  /-- After a backslash that white space follows: a line end has to come, unless one already did,
      and then white space and line ends are left out. -/
  | joined (text : List Char) (ended : Bool)
  /-- There, after a carriage return. -/
  | joinedReturned (text : List Char)
  deriving DecidableEq, Repr

/-- Whether a character may not stand in text: the control characters but for the tab. -/
def isControl (c : Char) : Bool := (c.toNat < 0x20 && c != '\t') || c.toNat == 0x7F

/-- Whether a character may stand in an unquoted key. -/
def isBareKeyChar (c : Char) : Bool := c.isAlphanum || c == '-' || c == '_'

namespace Mode

/-- The step of a character between tokens. -/
def startToken (c : Char) : Option (List Token × Mode) :=
  if c == ' ' || c == '\t' then some ([.blank], between)
  else if c == '\n' then some ([.newline], between)
  else if c == '\r' then some ([], returned)
  else if c == '#' then some ([], comment)
  else if c == '.' then some ([.dot], between)
  else if c == '=' then some ([.equals], between)
  else if c == ',' then some ([.comma], between)
  else if c == '[' then some ([.openBracket], between)
  else if c == ']' then some ([.closeBracket], between)
  else if c == '\x7b' then some ([.openBrace], between)
  else if c == '\x7d' then some ([.closeBrace], between)
  else if c == '"' then some ([], opened .basic)
  else if c == '\'' then some ([], opened .literal)
  else if isControl c then none
  else some ([], word [c])

/-- Whether a character ends unquoted text. -/
def endsWord (c : Char) : Bool :=
  [' ', '\t', '\n', '\r', '#', '.', '=', ',', '[', ']', '\x7b', '\x7d', '"', '\''].contains c

/-- A token completed in front of the step of a character between tokens. -/
def finishThen (token : Token) (c : Char) : Option (List Token × Mode) :=
  (startToken c).map fun (tokens, mode) => (token :: tokens, mode)

/-- The step of a character in text on one line. -/
def stepLine (quote : Quote) (text : List Char) (c : Char) : Option (List Token × Mode) :=
  if c == quote.char then some ([.quoted false text.reverse], between)
  else if c == '\\' && quote == .basic then some ([], escape false text)
  else if isControl c then none
  else some ([], line quote (c :: text))

/-- The step of a character that is no quote in text on several lines. -/
def stepMultiline (quote : Quote) (text : List Char) (c : Char) : Option (List Token × Mode) :=
  if c == '\\' && quote == .basic then some ([], escape true text)
  else if c == '\n' then some ([], multiline quote (c :: text) 0)
  else if c == '\r' then some ([], multilineReturned quote text)
  else if isControl c then none
  else some ([], multiline quote (c :: text) 0)

/-- The step of any character in text on several lines.  Three quotes end the text; one or two more
    right after them belong to it, so the end is known only with the next other character or with
    the fifth quote. -/
def stepQuotes (quote : Quote) (text : List Char) (quotes : Nat) (c : Char) :
    Option (List Token × Mode) :=
  if c == quote.char then
    if quotes == 4 then
      some ([.quoted true (List.replicate 2 quote.char ++ text).reverse], between)
    else some ([], multiline quote text (quotes + 1))
  else if 3 ≤ quotes then
    finishThen (.quoted true (List.replicate (quotes - 3) quote.char ++ text).reverse) c
  else stepMultiline quote (List.replicate quotes quote.char ++ text) c

/-- The text of one or of several lines that goes on. -/
def resume (several : Bool) (text : List Char) : Mode :=
  if several then multiline .basic text 0 else line .basic text

/-- The character that a letter after a backslash stands for. -/
def escaped? (c : Char) : Option Char :=
  [('b', '\x08'), ('t', '\t'), ('n', '\n'), ('f', '\x0c'), ('r', '\r'), ('e', '\x1b'),
    ('"', '"'), ('\\', '\\')].lookup c

/-- The number of hexadecimal digits that a letter after a backslash announces. -/
def digitCount? (c : Char) : Option Nat := [('x', 2), ('u', 4), ('U', 8)].lookup c

/-- The step of a character after a backslash. -/
def stepEscape (several : Bool) (text : List Char) (c : Char) : Option (List Token × Mode) :=
  match escaped? c with
  | some char => some ([], resume several (char :: text))
  | none =>
    match digitCount? c with
    | some count => some ([], digits several text count 0)
    | none =>
      if !several then none
      else if c == ' ' || c == '\t' then some ([], joined text false)
      else if c == '\n' then some ([], joined text true)
      else if c == '\r' then some ([], joinedReturned text)
      else none

/-- The step of a character that should be a hexadecimal digit. -/
def stepDigits (several : Bool) (text : List Char) (left value : Nat) (c : Char) :
    Option (List Token × Mode) := do
  let digit ← Text.digitValue? 16 c
  let value := value * 16 + digit
  if left ≤ 1 then
    if value.isValidChar then some ([], resume several (Char.ofNat value :: text)) else none
  else some ([], digits several text (left - 1) value)

/-- The step of a character after a backslash and white space. -/
def stepJoined (text : List Char) (ended : Bool) (c : Char) : Option (List Token × Mode) :=
  if c == ' ' || c == '\t' then some ([], joined text ended)
  else if c == '\n' then some ([], joined text true)
  else if c == '\r' then some ([], joinedReturned text)
  else if ended then stepQuotes .basic text 0 c
  else none

/-- The step of a character: the tokens that it completes and the mode after it. -/
def step (mode : Mode) (c : Char) : Option (List Token × Mode) :=
  match mode with
  | between => startToken c
  | returned => if c == '\n' then some ([.newline], between) else none
  | comment =>
    if c == '\n' then some ([.newline], between)
    else if c == '\r' then some ([], commentReturned)
    else if isControl c then none
    else some ([], comment)
  | commentReturned => if c == '\n' then some ([.newline], between) else none
  | word text =>
    if endsWord c then finishThen (.word text.reverse) c
    else if isControl c then none
    else some ([], word (c :: text))
  | opened quote => if c == quote.char then some ([], openedTwice quote) else stepLine quote [] c
  | openedTwice quote =>
    if c == quote.char then some ([], multilineStart quote) else finishThen (.quoted false []) c
  | line quote text => stepLine quote text c
  | multilineStart quote =>
    if c == '\n' then some ([], multiline quote [] 0)
    else if c == '\r' then some ([], multilineStartReturned quote)
    else stepQuotes quote [] 0 c
  | multilineStartReturned quote =>
    if c == '\n' then some ([], multiline quote [] 0) else none
  | multiline quote text quotes => stepQuotes quote text quotes c
  | multilineReturned quote text =>
    if c == '\n' then some ([], multiline quote ('\n' :: '\r' :: text) 0) else none
  | escape several text => stepEscape several text c
  | digits several text left value => stepDigits several text left value c
  | joined text ended => stepJoined text ended c
  | joinedReturned text => if c == '\n' then some ([], joined text true) else none

/-- The tokens that the end of the text completes, unless it may not end there. -/
def finish : Mode → Option (List Token)
  | between => some []
  | comment => some []
  | word text => some [.word text.reverse]
  | openedTwice _ => some [.quoted false []]
  | multiline quote text quotes =>
    if 3 ≤ quotes then
      some [.quoted true (List.replicate (quotes - 3) quote.char ++ text).reverse]
    else none
  | _ => none

end Mode

namespace Token

/-- The tokens of the text that follows, read from a mode. -/
def readFrom? (mode : Mode) : List Char → Option (List Token)
  | [] => mode.finish
  | c :: rest =>
    match mode.step c with
    | some (tokens, next) => (readFrom? next rest).map (tokens ++ ·)
    | none => none

/-- The tokens of a text; a byte order mark at its start does not count. -/
def read? : List Char → Option (List Token)
  | [] => some []
  | c :: rest => readFrom? .between (if c == '\uFEFF' then rest else c :: rest)

end Token

end DeployConfig.Toml
