/-
  Reading TOML documents.

  The tokens of a document are read one by one.  The reader keeps the entries read so far, the
  header of the table that lines now add to, and a phase that says what may come next; inside
  values the phase holds the arrays and inline tables that are still open.
-/
import DeployConfig.Toml.Scalar
import DeployConfig.Toml.Token

namespace DeployConfig.Toml

/-- Where a value belongs. -/
inductive Context where
  /-- Under a dotted key of the current table. -/
  | assign (path : List String) (key : String)
  /-- In an array, after the items given back to front. -/
  | array (outer : Context) (items : List Item)
  /-- Under a dotted key of an inline table with the entries given. -/
  | inline (outer : Context) (entries : Entries) (path : List String) (key : String)
  deriving Inhabited

/-- The number of arrays and inline tables around a value. -/
def Context.depth : Context → Nat
  | assign _ _ => 0
  | array outer _ => outer.depth + 1
  | inline outer _ _ _ => outer.depth + 1

/-- Values may lie in so many arrays and inline tables, and keys may have so many segments. -/
def depthLimit : Nat := 80

/-- What a key is for. -/
inductive KeyUse where
  | assign
  | table
  | tableArray
  | inline (outer : Context) (entries : Entries)

/-- What may come next.  Paths of keys are kept back to front. -/
inductive Phase where
  /-- The start of a line. -/
  | line
  /-- The end of a line, after all that it holds. -/
  | lineEnd
  /-- The second bracket of a header, or its key. -/
  | header
  /-- The second of the brackets that close a header. -/
  | headerEnd (path : List String)
  /-- A segment of a key. -/
  | segment (use : KeyUse) (path : List String)
  /-- What may follow a segment of a key. -/
  | afterSegment (use : KeyUse) (path : List String) (key : String)
  /-- A value. -/
  | value (context : Context)
  /-- An item of an array, or its end. -/
  | element (outer : Context) (items : List Item)
  /-- What may follow an item of an array. -/
  | afterElement (outer : Context) (items : List Item)
  /-- A key of an inline table, or its end. -/
  | entry (outer : Context) (entries : Entries)
  /-- What may follow an entry of an inline table. -/
  | afterEntry (outer : Context) (entries : Entries)
  /-- More of an unquoted value. -/
  | scalar (text : List Char) (context : Context)
  /-- The time that may follow a date and a space. -/
  | afterDate (text : List Char) (context : Context)

/-- A document read in part. -/
structure Reader where
  root : Entries := []
  header : List String := []
  phase : Phase := .line

namespace Reader

/-- The reader in another phase. -/
def goto (r : Reader) (phase : Phase) : Reader := { r with phase := phase }

/-- The reader after a complete value. -/
def complete? (r : Reader) (item : Item) : Context → Option Reader
  | .assign path key =>
    (r.root.assignUnder? r.header path key item).map fun root =>
      { r with root := root, phase := .lineEnd }
  | .array outer items => some (r.goto (.afterElement outer (item :: items)))
  | .inline outer entries path key =>
    (entries.assignInline? key item path).map fun entries => r.goto (.afterEntry outer entries)

/-- The reader after a complete unquoted value. -/
def completeScalar? (r : Reader) (text : List Char) (context : Context) : Option Reader :=
  (Scalar.ofText? text).bind fun item => r.complete? item context

/-- The segment of a key that a token writes. -/
def keyOf? : Token → Option String
  | .word text => if text.all isBareKeyChar then some (String.ofList text) else none
  | .quoted false text => some (String.ofList text)
  | _ => none

/-- The step of a token that should be a segment of a key. -/
def stepSegment (r : Reader) (use : KeyUse) (path : List String) (token : Token) :
    Option Reader :=
  if token = .blank then some (r.goto (.segment use path))
  else (keyOf? token).map fun key => r.goto (.afterSegment use path key)

/-- The step of a token that may start a value. -/
def stepValue (r : Reader) (context : Context) (token : Token) : Option Reader :=
  match token with
  | .blank => some (r.goto (.value context))
  | .word text => some (r.goto (.scalar text context))
  | .quoted _ text => r.complete? (.string (String.ofList text)) context
  | .openBracket =>
    if context.depth < depthLimit then some (r.goto (.element context [])) else none
  | .openBrace => if context.depth < depthLimit then some (r.goto (.entry context [])) else none
  | _ => none

/-- The reader after a header of a table. -/
def openTable? (r : Reader) (path : List String) (key : String) : Option Reader :=
  (r.root.openTable? path.reverse key).map fun root =>
    { root := root, header := (key :: path).reverse, phase := .lineEnd }

/-- The reader after a header of an element of an array of tables. -/
def openElement? (r : Reader) (path : List String) (key : String) : Option Reader :=
  (r.root.openElement? path.reverse key).map fun root =>
    { root := root, header := (key :: path).reverse, phase := .lineEnd }

/-- The step of a token after a segment of a key. -/
def stepAfterSegment (r : Reader) (use : KeyUse) (path : List String) (key : String)
    (token : Token) : Option Reader :=
  match token, use with
  | .blank, _ => some (r.goto (.afterSegment use path key))
  | .dot, _ =>
    if path.length + 1 < depthLimit then some (r.goto (.segment use (key :: path))) else none
  | .equals, .assign => some (r.goto (.value (.assign path.reverse key)))
  | .equals, .inline outer entries =>
    some (r.goto (.value (.inline outer entries path.reverse key)))
  | .closeBracket, .table => r.openTable? path key
  | .closeBracket, .tableArray => some (r.goto (.headerEnd (key :: path)))
  | _, _ => none

/-- The step of a token after a complete value. -/
def stepSettled (r : Reader) (token : Token) : Option Reader :=
  match r.phase, token with
  | .lineEnd, .blank => some r
  | .lineEnd, .newline => some (r.goto .line)
  | .afterElement _ _, .blank => some r
  | .afterElement _ _, .newline => some r
  | .afterElement outer items, .comma => some (r.goto (.element outer items))
  | .afterElement outer items, .closeBracket => r.complete? (.array items.reverse) outer
  | .afterEntry _ _, .blank => some r
  | .afterEntry _ _, .newline => some r
  | .afterEntry outer entries, .comma => some (r.goto (.entry outer entries))
  | .afterEntry outer entries, .closeBrace => r.complete? (.inlineTable .own entries) outer
  | _, _ => none

/-- The step of a token inside an unquoted value. -/
def stepScalar (r : Reader) (text : List Char) (context : Context) (token : Token) :
    Option Reader :=
  match token with
  | .word more => some (r.goto (.scalar (text ++ more) context))
  | .dot => some (r.goto (.scalar (text ++ ['.']) context))
  | token =>
    if token = .blank && (DateTime.date? text).any fun found => found.2.isEmpty then
      some (r.goto (.afterDate text context))
    else (r.completeScalar? text context).bind fun r => r.stepSettled token

/-- The step of a token after a date and a space. -/
def stepAfterDate (r : Reader) (text : List Char) (context : Context) (token : Token) :
    Option Reader :=
  let settle := (r.completeScalar? text context).bind fun r => r.stepSettled token
  match token with
  | .word more =>
    if more.head?.any Char.isDigit then some (r.goto (.scalar (text ++ ' ' :: more) context))
    else settle
  | _ => settle

/-- The reader after one more token. -/
def step (r : Reader) (token : Token) : Option Reader :=
  match r.phase with
  | .line =>
    match token with
    | .blank => some r
    | .newline => some r
    | .openBracket => some (r.goto .header)
    | token => r.stepSegment .assign [] token
  | .header =>
    if token = .openBracket then some (r.goto (.segment .tableArray []))
    else r.stepSegment .table [] token
  | .headerEnd path =>
    match token, path with
    | .closeBracket, key :: path => r.openElement? path key
    | _, _ => none
  | .segment use path => r.stepSegment use path token
  | .afterSegment use path key => r.stepAfterSegment use path key token
  | .value context => r.stepValue context token
  | .element outer items =>
    match token with
    | .blank => some r
    | .newline => some r
    | .closeBracket => r.complete? (.array items.reverse) outer
    | token => r.stepValue (.array outer items) token
  | .entry outer entries =>
    match token with
    | .blank => some r
    | .newline => some r
    | .closeBrace => r.complete? (.inlineTable .own entries) outer
    | token => r.stepSegment (.inline outer entries) [] token
  | .scalar text context => r.stepScalar text context token
  | .afterDate text context => r.stepAfterDate text context token
  | .lineEnd => r.stepSettled token
  | .afterElement _ _ => r.stepSettled token
  | .afterEntry _ _ => r.stepSettled token

/-- The entries of the document once its tokens are read: they end where a line may end. -/
def finish (r : Reader) : Option Entries :=
  match r.phase with
  | .line => some r.root
  | .lineEnd => some r.root
  | .scalar text context => settled (r.completeScalar? text context)
  | .afterDate text context => settled (r.completeScalar? text context)
  | _ => none
where
  /-- The entries of a reader whose value completed a line. -/
  settled (r : Option Reader) : Option Entries :=
    match r with
    | some { root, phase := .lineEnd, .. } => some root
    | _ => none

end Reader

/-- The entries of the document that a text writes. -/
def read? (text : String) : Option Entries :=
  (Token.read? text.toList).bind fun tokens =>
    (tokens.foldlM Reader.step ({} : Reader)).bind Reader.finish

end DeployConfig.Toml
