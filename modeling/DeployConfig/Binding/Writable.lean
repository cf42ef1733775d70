/-
  Written forms.

  A kind of block says on its own what its targets are written as: the names, their order and when
  a field is left out.  Nothing here looks at how the kind is read.
-/
import DeployConfig.Number.FixedWidth
import DeployConfig.OrderedMap
import DeployConfig.Project.Path
import DeployConfig.Value

namespace DeployConfig

/-- A kind of block that can be written: its fields in order, where one without a value is left
    out. -/
class Writable (T : Type) where
  fields : T → Fields

namespace Writable

/-- The written form of a target. -/
def toBlock {T : Type} [Writable T] (target : T) : Block := (fields target).present

/-- The written form of a target as a value. -/
def toValue {T : Type} [Writable T] (target : T) : Value := .block (toBlock target)

/-! ## Values of fields -/

/-- An integer of a fixed width as a value. -/
def ofInteger {α : Type} [FixedWidth α] (n : α) : Value :=
  .integer (Int64.ofInt (FixedWidth.toInt n))

/-- A path as a value. -/
def ofPath (path : Path) : Value := .string path.text

variable {α : Type} (write : α → Value)

/-- A list as a value. -/
def ofList (items : List α) : Value := .list (items.map write)

/-- A map as a value, in the order of its keys. -/
def ofMap (map : OrderedMap α) : Value :=
  .block (map.toList.map fun entry => (entry.1, write entry.2))

/-- What is written of a list, if it is not empty. -/
def list (items : List α) : Option Value :=
  if items.isEmpty then none else some (ofList write items)

/-- What is written of a map, if it is not empty. -/
def map (map : OrderedMap α) : Option Value :=
  if map.isEmpty then none else some (ofMap write map)

end Writable

end DeployConfig
