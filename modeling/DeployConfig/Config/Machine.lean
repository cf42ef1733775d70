/-
  The Docker machine.
-/
import DeployConfig.Binding.Slot

namespace DeployConfig

/-- The Docker machine that runs the builds. -/
structure Machine where
  name : Option String := none
  autoCreate : Option Bool := none
  regenerateCertsAfterStart : Option Bool := none
  createOptions : OrderedMap String := .empty
  deriving DecidableEq

instance : Bindable Machine where
  kind := "machine"
  empty := {}
  slots := [
    .optional "name" .string (.mk (·.name) fun t v => { t with name := v }),
    .optional "autoCreate" .boolean (.mk (·.autoCreate) fun t v => { t with autoCreate := v }),
    .optional "regenerateCertsAfterStart" .boolean
      (.mk (·.regenerateCertsAfterStart) fun t v => { t with regenerateCertsAfterStart := v }),
    .whole "createOptions" .stringMap
      (.mk (·.createOptions) fun t v => { t with createOptions := v })]

instance : Writable Machine where
  fields m := [
    ("name", m.name.map .string),
    ("autoCreate", m.autoCreate.map .boolean),
    ("regenerateCertsAfterStart", m.regenerateCertsAfterStart.map .boolean),
    ("createOptions", Writable.map .string m.createOptions)]

end DeployConfig
