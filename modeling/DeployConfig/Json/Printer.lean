/-
  Writing JSON.

  Every member of an object or array has lines of its own, two spaces to the right of the brackets
  around it; an object or array without members is a pair of brackets.
-/
import DeployConfig.Value

namespace DeployConfig.Json

/-! ## Strings -/

/-- A character as a string writes it.  Quotes, backslashes and the characters below the space are
    escaped. -/
def escaped : Char → List Char
  | '"' => ['\\', '"']
  | '\\' => ['\\', '\\']
  | '\x08' => ['\\', 'b']
  | '\t' => ['\\', 't']
  | '\n' => ['\\', 'n']
  | '\x0c' => ['\\', 'f']
  | '\r' => ['\\', 'r']
  | c => if c.toNat < 0x20 then '\\' :: 'u' :: Text.paddedDigits 16 4 c.toNat else [c]

/-- A text as a string. -/
def quoted (text : String) : String :=
  String.ofList ('"' :: text.toList.flatMap escaped ++ ['"'])

/-! ## Lines -/

/-- Lines with a text in front of the first one. -/
def withLabel (label : String) : List String → List String
  | [] => [label]
  | line :: rest => (label ++ line) :: rest

/-- Lines with a comma behind the last one. -/
def withComma : List String → List String
  | [] => []
  | [line] => [line ++ ","]
  | line :: rest => line :: withComma rest

/-- The lines of members, with commas between them. -/
def separated : List (List String) → List String
  | [] => []
  | [lines] => lines
  | lines :: rest => withComma lines ++ separated rest

/-- Members between brackets. -/
def enclosed (opening closing : String) (members : List (List String)) : List String :=
  if members.isEmpty then [opening ++ closing]
  else opening :: (separated members).map ("  " ++ ·) ++ [closing]

/-- The lines of an array. -/
def array (items : List (List String)) : List String := enclosed "[" "]" items

/-- The lines of an object. -/
def object (members : List (String × List String)) : List String :=
  enclosed "\x7b" "\x7d" (members.map fun m => withLabel (quoted m.1 ++ ": ") m.2)

/-- Lines as a text, in which the last one does not end. -/
def ofLines (lines : List String) : String := "\n".intercalate lines

/-! ## Values -/

/-- A floating-point number; one that is not finite has no form of its own. -/
def float : Binary64 → String
  | .finite negative mantissa exponent => Binary64.scientific negative mantissa exponent
  | _ => "null"

mutual

/-- The lines of a value. -/
def ofValue : Value → List String
  | .string text => [quoted text]
  | .integer number => [Text.decimal number.toInt]
  | .float number => [float number]
  | .boolean truth => [if truth then "true" else "false"]
  | .list items => array (ofItems items)
  | .block entries => object (ofEntries entries)

/-- The lines of each item of a list. -/
def ofItems : List Value → List (List String)
  | [] => []
  | item :: rest => ofValue item :: ofItems rest

/-- The lines of each value of a block, with its name. -/
def ofEntries : List (String × Value) → List (String × List String)
  | [] => []
  | (name, value) :: rest => (name, ofValue value) :: ofEntries rest

end

/-- The lines of a value that may be unset. -/
def ofOption : Option Value → List String
  | some value => ofValue value
  | none => ["null"]

/-- The lines of an object with the given fields; those that are unset are null. -/
def ofFieldLines (fields : Fields) : List String :=
  object (fields.map fun f => (f.1, ofOption f.2))

/-- The text of an object with the given fields. -/
def ofFields (fields : Fields) : String := ofLines (ofFieldLines fields)

end DeployConfig.Json
