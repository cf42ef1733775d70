/-
  Values and blocks.

  A configuration block is an ordered list of assignments.  The same name may be assigned more
  than once: whoever reads a block sees every assignment in the order written, so for plain fields
  the last one stays and for collections each one counts.
-/
import DeployConfig.Number.Shortest

namespace DeployConfig

/-- A value assigned to a field. -/
inductive Value where
  | string (text : String)
  | integer (number : Int64)
  | float (number : Binary64)
  | boolean (truth : Bool)
  | list (items : List Value)
  | block (entries : List (String × Value))
  deriving Inhabited

/-- The assignments of a block, in the order written. -/
abbrev Block := List (String × Value)

/-- Named values in order, of which some may be unset. -/
abbrev Fields := List (String × Option Value)

namespace Value

/-- The name of a value's type, as messages use it. -/
def typeName : Value → String
  | string _ => "string"
  | integer _ => "integer"
  | float _ => "float"
  | boolean _ => "boolean"
  | list _ => "list"
  | block _ => "block"

/-- The text of a scalar value. -/
def scalarText? : Value → Option String
  | string text => some text
  | integer number => some (Text.decimal number.toInt)
  | float number => some number.text
  | boolean truth => some (if truth then "true" else "false")
  | list _ => none
  | block _ => none

end Value

namespace Block

/-- The value of the last assignment of a name. -/
def get? (block : Block) (name : String) : Option Value := block.reverse.lookup name

end Block

/-- The fields that have a value, as the assignments of a block. -/
def Fields.present (fields : Fields) : Block :=
  fields.filterMap fun field => field.2.map fun value => (field.1, value)

end DeployConfig
