/-
  Rules for the processors that enrich and generate resources.
-/
import DeployConfig.Binding.Slot

namespace DeployConfig

/-- Which processors run, and the options of each. -/
structure Processors where
  includes : List String := []
  excludes : List String := []
  /-- Options of the processors, by their names. -/
  config : OrderedMap (OrderedMap String) := .empty
  deriving DecidableEq

namespace Processors

/-- The options of each processor, set in turn until a field is no block of scalars. -/
def setOptions (p : Processors) (kind : String) : Block → Outcome Processors
  | [] => ⟨p, none⟩
  | (name, value) :: rest =>
    match Field.stringMap ⟨kind, name, value⟩ with
    | .ok options => setOptions { p with config := p.config.insert name options } kind rest
    | .error e => ⟨p, some e⟩

/-- The slot of the options.  Options are added to the ones already set, and those that were read
    before a failure stay. -/
def configSlot : Slot Processors where
  name := "config"
  assign p f :=
    match f.block with
    | .ok entries => p.setOptions f.kind entries
    | .error e => ⟨p, some e⟩

instance : Bindable Processors where
  kind := "processor"
  empty := {}
  slots := [
    .whole "includes" .strings (.mk (·.includes) fun t v => { t with includes := v }),
    .whole "excludes" .strings (.mk (·.excludes) fun t v => { t with excludes := v }),
    configSlot]

instance : Writable Processors where
  fields p := [
    ("includes", Writable.list .string p.includes),
    ("excludes", Writable.list .string p.excludes),
    ("config", Writable.map (Writable.ofMap .string) p.config)]

/-- Whether the rules let a processor run: an excluded one never does, and if some are included no
    others do. -/
def isEnabled (p : Processors) (name : String) : Bool :=
  !p.excludes.contains name && (p.includes.isEmpty || p.includes.contains name)

/-- The options of a processor. -/
def options (p : Processors) (name : String) : Option (OrderedMap String) := p.config.get? name

end Processors

end DeployConfig
