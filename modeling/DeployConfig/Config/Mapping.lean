/-
  Mappings from names of resource fragments to resource kinds.
-/
import DeployConfig.Binding.Slot
import DeployConfig.Text.Blank
import DeployConfig.Text.Separated

namespace DeployConfig

/-- Says which kind of resource the fragments of some file names hold. -/
structure Mapping where
  kind : Option String := none
  /-- File names without extension, with commas between them. -/
  filenameTypes : Option String := none
  apiVersion : Option String := none
  deriving DecidableEq

instance : Bindable Mapping where
  kind := "mapping"
  empty := {}
  slots := [
    .optional "kind" .string (.mk (·.kind) fun t v => { t with kind := v }),
    .optional "filenameTypes" .string
      (.mk (·.filenameTypes) fun t v => { t with filenameTypes := v }),
    .optional "apiVersion" .string (.mk (·.apiVersion) fun t v => { t with apiVersion := v })]

instance : Writable Mapping where
  fields m := [
    ("kind", m.kind.map .string),
    ("filenameTypes", m.filenameTypes.map .string),
    ("apiVersion", m.apiVersion.map .string)]

namespace Mapping

/-- The file names, without the white space around them and without empty ones. -/
def filenames (m : Mapping) : List String :=
  ((Text.splitAt ',' (m.filenameTypes.getD "").toList).map Text.trim).filterMap fun name =>
    if name.isEmpty then none else some (String.ofList name)

/-- A mapping is of use if it has a kind and at least one file name. -/
def isValid (m : Mapping) : Bool :=
  (match m.kind with
    | some kind => !Text.blank kind
    | none => false) && !m.filenames.isEmpty

end Mapping

end DeployConfig
