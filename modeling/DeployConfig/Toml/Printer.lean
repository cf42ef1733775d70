/-
  Writing TOML.

  A table writes its values first and then the tables inside it, each with an empty line in front.
  A list of tables becomes elements with headers of their own; any other list is an array, which
  takes a line for every item as soon as it has two.
-/
import DeployConfig.Toml.Token
import DeployConfig.Value

namespace DeployConfig.Toml

/-! ## Texts -/

/-- Whether a character of text has to be escaped wherever it stands. -/
def needsEscape (c : Char) : Bool := isControl c && c != '\n'

/-- The length of the longest run of a character, given that of the run before the text. -/
def longestRun (c : Char) (run : Nat) : List Char → Nat
  | [] => run
  | d :: rest => if d == c then longestRun c (run + 1) rest else max run (longestRun c 0 rest)

/-- The letters of the escapes that have one. -/
def escapeLetters : List (Char × Char) :=
  [('\x08', 'b'), ('\t', 't'), ('\n', 'n'), ('\x0c', 'f'), ('\r', 'r'), ('\\', '\\')]

/-- A character other than a double quote, as text in double quotes holds it. -/
def basicChar (several : Bool) (c : Char) : List Char :=
  if c == '\n' && several then [c]
  else match escapeLetters.lookup c with
    | some letter => ['\\', letter]
    | none =>
      if isControl c then '\\' :: 'u' :: (Text.paddedDigits 16 4 c.toNat).map Char.toUpper
      else [c]

/-- Text as double quotes hold it, on one line or on several, after a run of double quotes.  One
    that would end the text is escaped. -/
def basicChars (several : Bool) (run : Nat) : List Char → List Char
  | [] => []
  | '"' :: rest =>
    if run == (if several then 2 else 0) then '\\' :: '"' :: basicChars several 0 rest
    else '"' :: basicChars several (run + 1) rest
  | c :: rest => basicChar several c ++ basicChars several 0 rest

/-- Text between quotes, on one line or on several.  A line end at the start of text on several
    lines does not count, and one is put there if the text has any. -/
def enquoted (quote : Quote) (several : Bool) (cs : List Char) : List Char :=
  let marks := List.replicate (if several then 3 else 1) quote.char
  let start : List Char := if several && cs.contains '\n' then ['\n'] else []
  let inner := match quote with
    | .basic => basicChars several 0 cs
    | .literal => cs
  marks ++ start ++ inner ++ marks

/-- A text between the first quotes of these that hold it without escapes: double, single, double on
    several lines, single on several lines.  Where none does, it is escaped in double quotes. -/
def stringText (cs : List Char) : List Char :=
  let escapes := cs.any needsEscape
  let backslash := cs.contains '\\'
  let lines := cs.contains '\n'
  if !escapes && !lines && !backslash && !cs.contains '"' then enquoted .basic false cs
  else if !escapes && !lines && !cs.contains '\'' then enquoted .literal false cs
  else if !escapes && !backslash && longestRun '"' 0 cs ≤ 2 then enquoted .basic true cs
  else if !escapes && longestRun '\'' 0 cs ≤ 2 then enquoted .literal true cs
  else enquoted .basic lines cs

/-- A key: bare if its characters allow it, and otherwise between quotes on one line. -/
def keyText (key : String) : List Char :=
  let cs := key.toList
  let escapes := cs.any isControl
  if !cs.isEmpty && cs.all isBareKeyChar then cs
  else if !escapes && !cs.contains '\\' && !cs.contains '"' then enquoted .basic false cs
  else if !escapes && !cs.contains '\'' then enquoted .literal false cs
  else enquoted .basic false cs

/-! ## Values -/

/-- A floating-point number, which keeps a point. -/
def floatText (x : Binary64) : List Char :=
  let cs := x.text.toList
  if x.isFinite then if cs.contains '.' then cs else cs ++ ['.', '0']
  else cs.map Char.toLower

/-- Texts with a comma and a space between them. -/
def commaSeparated (texts : List (List Char)) : List Char := [',', ' '].intercalate texts

/-- An array of items. -/
def arrayText (items : List (List Char)) : List Char :=
  match items with
  | _ :: _ :: _ => '[' :: '\n' :: items.flatMap (fun item => "    ".toList ++ item ++ [',', '\n'])
    ++ [']']
  | _ => '[' :: commaSeparated items ++ [']']

/-- A table on one line. -/
def inlineTableText (entries : List (List Char)) : List Char :=
  if entries.isEmpty then ['\x7b', '\x7d']
  else ['\x7b', ' '] ++ commaSeparated entries ++ [' ', '\x7d']

/-- A key with the text of its value. -/
def assignment (key : String) (text : List Char) : List Char :=
  keyText key ++ [' ', '=', ' '] ++ text

mutual

/-- A value behind a key. -/
def valueText : Value → List Char
  | .string text => stringText text.toList
  | .integer number => (Text.decimal number.toInt).toList
  | .float number => floatText number
  | .boolean truth => (if truth then "true" else "false").toList
  | .list items => arrayText (itemTexts items)
  | .block entries => inlineTableText (entryTexts entries)

/-- The items of an array. -/
def itemTexts : List Value → List (List Char)
  | [] => []
  | item :: rest => valueText item :: itemTexts rest

/-- The assignments of a table on one line. -/
def entryTexts : List (String × Value) → List (List Char)
  | [] => []
  | (key, value) :: rest => assignment key (valueText value) :: entryTexts rest

end

/-! ## Tables -/

/-- Whether a value is a table. -/
def isTable : Value → Bool
  | .block _ => true
  | _ => false

/-- Whether a value is written under headers of its own: a table, or a list of tables. -/
def hasHeader : Value → Bool
  | .block _ => true
  | .list items => !items.isEmpty && items.all isTable
  | _ => false

/-- The assignments of a table that stand under its own header. -/
def assignments (entries : Block) : List Char :=
  (entries.filter fun e => !hasHeader e.2).flatMap fun e =>
    assignment e.1 (valueText e.2) ++ ['\n']

/-- A path of keys with dots between them. -/
def pathText (path : List String) : List Char := ['.'].intercalate (path.map keyText)

/-- The header of a table, with an empty line in front. -/
def tableHeader (path : List String) : List Char := ['\n', '['] ++ pathText path ++ [']', '\n']

/-- The header of an element, with an empty line in front. -/
def elementHeader (path : List String) : List Char :=
  ['\n', '[', '['] ++ pathText path ++ [']', ']', '\n']

mutual

/-- The tables that a value at a path makes.  A table that holds nothing but tables has no header
    of its own. -/
def tableText (path : List String) : Value → List Char
  | .block entries =>
    (if !entries.isEmpty && entries.all (fun e => hasHeader e.2) then [] else tableHeader path)
      ++ assignments entries ++ tablesText path entries
  | .list items => if !items.isEmpty && items.all isTable then elementsText path items else []
  | _ => []

/-- The tables inside a table. -/
def tablesText (path : List String) : List (String × Value) → List Char
  | [] => []
  | (key, value) :: rest => tableText (path ++ [key]) value ++ tablesText path rest

/-- The tables of a list. -/
def elementsText (path : List String) : List Value → List Char
  | [] => []
  | .block entries :: rest =>
    elementHeader path ++ assignments entries ++ tablesText path entries ++ elementsText path rest
  | _ :: rest => elementsText path rest

end

/-- The text of a document with the given fields; those that are unset are left out. -/
def ofFields (fields : Fields) : String :=
  let entries : Block := fields.filterMap fun f => f.2.map fun value => (f.1, value)
  let values := assignments entries
  let tables := tablesText [] entries
  String.ofList (if values.isEmpty then tables.drop 1 else values ++ tables)

end DeployConfig.Toml
