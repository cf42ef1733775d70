/-
  Writing YAML.

  Mappings and sequences are written as blocks, two spaces to the right of what holds them; only a
  sequence that is the value of a mapping stands below its key.  The text of every value ends its
  last line.
-/
import DeployConfig.Yaml.ScalarStyle

namespace DeployConfig.Yaml

/-! ## Indentation -/

/-- A text with two spaces in front of every line that is not empty; the first line has them only
    if the text starts one. -/
def indentAfter (atStart : Bool) : List Char → List Char
  | [] => []
  | c :: rest =>
    if isBreak c then c :: indentAfter true rest
    else if atStart then ' ' :: ' ' :: c :: indentAfter false rest
    else c :: indentAfter false rest

/-- A text with all its lines indented. -/
def indented (cs : List Char) : List Char := indentAfter true cs

/-- A text behind a mark, with its further lines indented. -/
def hanging (mark cs : List Char) : List Char := mark ++ indentAfter false cs

/-! ## Values -/

/-- Whether a key may stand in front of its colon without a mark: it is short and ends no line. -/
def isSimpleKey (key : String) : Bool := !key.toList.any endsLine && key.utf8ByteSize ≤ 128

/-- What follows the colon of a simple key, given the lines of the value. -/
def afterColon (text : List Char) : Option Value → List Char
  | some (.list (_ :: _)) => '\n' :: text
  | some (.block (_ :: _)) => '\n' :: indented text
  | _ => hanging [' '] text

/-- The lines of an entry, given those of its value. -/
def entryText (key : String) (value : Option Value) (text : List Char) : List Char :=
  let keyText := scalarText key.toList
  if isSimpleKey key then keyText.dropLast ++ ':' :: afterColon text value
  else hanging ['?', ' '] keyText ++ hanging [':', ' '] text

mutual

/-- The lines of a value. -/
def valueText : Value → List Char
  | .string text => scalarText text.toList
  | .integer number => (Text.decimal number.toInt).toList ++ ['\n']
  | .float number => (floatText number).toList ++ ['\n']
  | .boolean truth => (if truth then "true\n" else "false\n").toList
  | .list [] => ['[', ']', '\n']
  | .list items => itemsText items
  | .block [] => ['\x7b', '\x7d', '\n']
  | .block entries => entriesText entries

/-- The lines of the items of a sequence. -/
def itemsText : List Value → List Char
  | [] => []
  | item :: rest => hanging ['-', ' '] (valueText item) ++ itemsText rest

/-- The lines of the entries of a mapping. -/
def entriesText : List (String × Value) → List Char
  | [] => []
  | (key, value) :: rest => entryText key (some value) (valueText value) ++ entriesText rest

end

/-- The lines of a value that may be unset. -/
def optionText : Option Value → List Char
  | some value => valueText value
  | none => ['n', 'u', 'l', 'l', '\n']

/-- The text of a mapping with the given fields. -/
def ofFields (fields : Fields) : String :=
  String.ofList (fields.flatMap fun f => entryText f.1 f.2 (optionText f.2))

end DeployConfig.Yaml
