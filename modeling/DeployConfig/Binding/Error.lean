/-
  Why a block does not bind.

  A binding error names the kind of block, the field and the cause.  The wording is in one
  function, so that everything else can compare causes.
-/
import DeployConfig.Number.FixedWidth
import DeployConfig.Text.Integer
import DeployConfig.Enumeration

namespace DeployConfig

/-- The form of value that a field asks for. -/
inductive Expectation where
  | string
  | boolean
  | integer
  | pathString
  | listOfStrings
  | listOfPorts
  | block
  | blockOfScalars
  | listOfBlocks
  | blockOrListOfBlocks
  deriving DecidableEq, Repr

/-- What an expected form is called. -/
def Expectation.text : Expectation → String
  | string => "string"
  | boolean => "boolean"
  | integer => "integer"
  | pathString => "path string"
  | listOfStrings => "list of strings"
  | listOfPorts => "list of ports"
  | block => "block"
  | blockOfScalars => "block of scalar values"
  | listOfBlocks => "list of blocks"
  | blockOrListOfBlocks => "block or list of blocks"

/-- Why a value of the right form is still not taken. -/
inductive InvalidValue where
  | outOfRange (value : Int) (side : RangeError)
  | unknownVariant (error : UnknownVariant)
  deriving DecidableEq, Repr

/-- The text of the value that is not taken. -/
def InvalidValue.value : InvalidValue → String
  | outOfRange value _ => Text.decimal value
  | unknownVariant error => error.value

/-- What is wrong with the value that is not taken. -/
def InvalidValue.reason : InvalidValue → String
  | outOfRange _ side => side.message
  | unknownVariant error => error.message

/-- Why a block does not bind. -/
inductive BindError where
  | unknownFields (kind : String) (fields : List String)
  | typeMismatch (kind field : String) (expected : Expectation) (found : String)
  | invalidValue (kind field : String) (cause : InvalidValue)
  deriving DecidableEq, Repr

/-- What a binding error says. -/
def BindError.message : BindError → String
  | unknownFields kind fields =>
    "Unknown field(s) in " ++ kind ++ " block: " ++ ", ".intercalate fields
  | typeMismatch kind field expected found =>
    "Field '" ++ field ++ "' in " ++ kind ++ " block expects " ++ expected.text ++ ", found "
      ++ found
  | invalidValue kind field cause =>
    "Field '" ++ field ++ "' in " ++ kind ++ " block has invalid value '" ++ cause.value ++ "': "
      ++ cause.reason

end DeployConfig
