/-
  Reading a field at a type.

  A field is one assignment inside a block of some kind.  Each reader takes the value at one type
  or says which form it expected and which it found.
-/
import DeployConfig.Binding.Error
import DeployConfig.OrderedMap
import DeployConfig.Project.Path
import DeployConfig.Value

namespace DeployConfig

/-- One assignment inside a block, with the kind of the block for messages. -/
structure Field where
  kind : String
  name : String
  value : Value

namespace Field

/-- The error of a field whose value has another form than expected. -/
def mismatch {α : Type} (f : Field) (expected : Expectation) : Except BindError α :=
  .error (.typeMismatch f.kind f.name expected f.value.typeName)

/-- The error of a field whose value is not taken. -/
def invalid {α : Type} (f : Field) (cause : InvalidValue) : Except BindError α :=
  .error (.invalidValue f.kind f.name cause)

/-- A text. -/
def string (f : Field) : Except BindError String :=
  match f.value with
  | .string text => .ok text
  | _ => f.mismatch .string

/-- A truth value. -/
def boolean (f : Field) : Except BindError Bool :=
  match f.value with
  | .boolean truth => .ok truth
  | _ => f.mismatch .boolean

/-- An integer of a fixed width; one outside of its range is not taken. -/
def integer (α : Type) [FixedWidth α] (f : Field) : Except BindError α :=
  match f.value with
  | .integer number =>
    match narrow α number.toInt with
    | .ok n => .ok n
    | .error side => f.invalid (.outOfRange number.toInt side)
  | _ => f.mismatch .integer

/-- A path. -/
def path (f : Field) : Except BindError Path :=
  match f.value with
  | .string text => .ok ⟨text⟩
  | _ => f.mismatch .pathString

/-- A member of an enumeration, by its name. -/
def choice (α : Type) [Enumeration α] (f : Field) : Except BindError α :=
  match f.value with
  | .string text =>
    match Enumeration.parse α text with
    | .ok a => .ok a
    | .error unknown => f.invalid (.unknownVariant unknown)
  | _ => f.mismatch .string

/-- Every item of a list read by a function that may have no answer; then the field has another
    form than expected. -/
def items {α : Type} (f : Field) (expected : Expectation) (read : Value → Option α) :
    Except BindError (List α) :=
  match f.value with
  | .list values =>
    match values.mapM read with
    | some results => .ok results
    | none => f.mismatch expected
  | _ => f.mismatch expected

/-- A list of texts. -/
def strings (f : Field) : Except BindError (List String) :=
  f.items .listOfStrings fun
    | .string text => some text
    | _ => none

/-- A list of ports, each a number or a text such as `9090/udp`. -/
def ports (f : Field) : Except BindError (List String) :=
  f.items .listOfPorts fun
    | .integer number => some (Text.decimal number.toInt)
    | .string text => some text
    | _ => none

/-- A command: one text for the shell, or a list of arguments. -/
def command (f : Field) : Except BindError (List String) :=
  match f.value with
  | .string text => .ok [text]
  | _ => f.strings

/-- A block. -/
def block (f : Field) : Except BindError Block :=
  match f.value with
  | .block entries => .ok entries
  | _ => f.mismatch .block

/-- A block of scalars as a map from names to their texts; the last text of a name stays. -/
def stringMap (f : Field) : Except BindError (OrderedMap String) :=
  match f.value with
  | .block entries =>
    match entries.mapM fun entry => entry.2.scalarText?.map fun text => (entry.1, text) with
    | some texts => .ok (OrderedMap.ofList texts)
    | none => f.mismatch .blockOfScalars
  | _ => f.mismatch .block

/-- The entries of a value that is a block. -/
def block? : Value → Option Block
  | .block entries => some entries
  | _ => none

/-- A list of blocks, each read in turn; an item that is no block is an error only once the items
    before it have been read. -/
def blockItems {α : Type} (f : Field) (read : Block → Except BindError α) :
    Except BindError (List α) :=
  match f.value with
  | .list values => values.mapM fun item =>
    match block? item with
    | some entries => read entries
    | none => f.mismatch .listOfBlocks
  | _ => f.mismatch .listOfBlocks

/-- The blocks that a field carries: one block, or a list of blocks. -/
def blocks (f : Field) : Except BindError (List Block) :=
  match f.value with
  | .block entries => .ok [entries]
  | _ => f.items .blockOrListOfBlocks block?

end Field

end DeployConfig
