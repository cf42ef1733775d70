/-
  Everything that `kubernetes` blocks declare.

  Blocks may be applied one after the other: plain fields keep their last value, images and
  mappings follow the policy of repeatable collections.  Each structured field can also be declared
  on its own, with the same outcome as a block that assigns only it.
-/
import DeployConfig.Binding.Repeatable
import DeployConfig.Config.Access
import DeployConfig.Config.Image
import DeployConfig.Config.Machine
import DeployConfig.Config.Mapping
import DeployConfig.Config.Processors
import DeployConfig.Config.RegistryAuth
import DeployConfig.Config.Resources
import DeployConfig.Settings.Declared

namespace DeployConfig

/-- Everything that `kubernetes` blocks declare. -/
structure Declarations where
  settings : Declared := {}
  buildStrategy : Option BuildStrategy := none
  resourceFileType : Option ResourceFileType := none
  access : Option Access := none
  resources : Option Resources := none
  enricher : Option Processors := none
  generator : Option Processors := none
  images : Repeatable Image := {}
  machine : Option Machine := none
  authConfig : Option RegistryAuth := none
  mappings : Repeatable Mapping := {}

namespace Declarations

/-- The name of a block in a document whose assignments are declarations. -/
def blockName : String := "kubernetes"

/-- The singular name of a field of images. -/
def imageName : String := "image"

/-- The singular name of a field of mappings. -/
def mappingName : String := "mapping"

/-! ## The field table -/

/-- The slot of the plural name of a collection. -/
def pluralSlot {T : Type} [Bindable T] (name singular : String)
    (part : Part Declarations (Repeatable T)) : Slot Declarations where
  name := name
  assign d f := .ofExcept d (((part.get d).replace f singular).map (part.set d))

/-- The slot of the singular name of a collection. -/
def singularSlot {T : Type} [Bindable T] (name : String)
    (part : Part Declarations (Repeatable T)) : Slot Declarations where
  name := name
  assign d f := .ofExcept d (((part.get d).extend f).map (part.set d))

/-- The plain settings. -/
def settingsPart : Part Declarations Declared :=
  .mk (·.settings) fun t v => { t with settings := v }

/-- The build strategy. -/
def buildStrategyPart : Part Declarations (Option BuildStrategy) :=
  .mk (·.buildStrategy) fun t v => { t with buildStrategy := v }

/-- The resource file type. -/
def resourceFileTypePart : Part Declarations (Option ResourceFileType) :=
  .mk (·.resourceFileType) fun t v => { t with resourceFileType := v }

/-- The access to the cluster. -/
def accessPart : Part Declarations (Option Access) :=
  .mk (·.access) fun t v => { t with access := v }

/-- The resources. -/
def resourcesPart : Part Declarations (Option Resources) :=
  .mk (·.resources) fun t v => { t with resources := v }

/-- The processors that enrich resources. -/
def enricherPart : Part Declarations (Option Processors) :=
  .mk (·.enricher) fun t v => { t with enricher := v }

/-- The processors that generate images. -/
def generatorPart : Part Declarations (Option Processors) :=
  .mk (·.generator) fun t v => { t with generator := v }

/-- The images. -/
def imagesPart : Part Declarations (Repeatable Image) :=
  .mk (·.images) fun t v => { t with images := v }

/-- The Docker machine. -/
def machinePart : Part Declarations (Option Machine) :=
  .mk (·.machine) fun t v => { t with machine := v }

/-- The credentials for registries. -/
def authConfigPart : Part Declarations (Option RegistryAuth) :=
  .mk (·.authConfig) fun t v => { t with authConfig := v }

/-- The mappings. -/
def mappingsPart : Part Declarations (Repeatable Mapping) :=
  .mk (·.mappings) fun t v => { t with mappings := v }

/-- The slots of everything but plain settings. -/
def ownSlots : List (Slot Declarations) := [
  .optional "buildStrategy" (.choice BuildStrategy) buildStrategyPart,
  .optional "resourceFileType" (.choice ResourceFileType) resourceFileTypePart,
  .optional "access" (.nested Access) accessPart,
  .optional "resources" (.nested Resources) resourcesPart,
  .optional "enricher" (.nested Processors) enricherPart,
  .optional "generator" (.nested Processors) generatorPart,
  .optional "machine" (.nested Machine) machinePart,
  .optional "authConfig" (.nested RegistryAuth) authConfigPart,
  pluralSlot "images" imageName imagesPart,
  singularSlot imageName imagesPart,
  pluralSlot "mappings" mappingName mappingsPart,
  singularSlot mappingName mappingsPart]

instance : Bindable Declarations where
  kind := blockName
  empty := {}
  slots := ownSlots ++ (Bindable.slots : List (Slot Declared)).map (Slot.lift settingsPart)

/-- The declarations after a block; if the block fails, those made before the failure stay. -/
def apply (d : Declarations) (block : Block) : Outcome Declarations := Bindable.bindInto d block

/-- The build strategy, `docker` unless another one is set. -/
def plainBuildStrategy (d : Declarations) : BuildStrategy := d.buildStrategy.getD default

/-- The resource file type, `yaml` unless another one is set. -/
def plainResourceFileType (d : Declarations) : ResourceFileType := d.resourceFileType.getD default

/-! ## Declaring one field -/

/-- A field whose value is a block of its own or a collection of blocks. -/
inductive Section where
  | access
  | resources
  | enricher
  | generator
  | machine
  | authConfig
  | image
  | images
  | mapping
  | mappings
  deriving DecidableEq, Repr

/-- The declarations after one block for a section. -/
def declare (d : Declarations) (block : Block) : Section → Except BindError Declarations
  | .access => (Bindable.bind Access block).map fun a => { d with access := some a }
  | .resources => (Bindable.bind Resources block).map fun a => { d with resources := some a }
  | .enricher => (Bindable.bind Processors block).map fun a => { d with enricher := some a }
  | .generator => (Bindable.bind Processors block).map fun a => { d with generator := some a }
  | .machine => (Bindable.bind Machine block).map fun a => { d with machine := some a }
  | .authConfig => (Bindable.bind RegistryAuth block).map fun a => { d with authConfig := some a }
  | .image => (d.images.append block).map fun c => { d with images := c }
  | .images => (d.images.replaceWithBlock block imageName).map fun c => { d with images := c }
  | .mapping => (d.mappings.append block).map fun c => { d with mappings := c }
  | .mappings =>
    (d.mappings.replaceWithBlock block mappingName).map fun c => { d with mappings := c }

/-- The declarations after a list of blocks for the images. -/
def declareImages (d : Declarations) (blocks : List Block) : Except BindError Declarations :=
  (d.images.replaceWithList blocks).map fun c => { d with images := c }

/-- The declarations after a list of blocks for the mappings. -/
def declareMappings (d : Declarations) (blocks : List Block) : Except BindError Declarations :=
  (d.mappings.replaceWithList blocks).map fun c => { d with mappings := c }

end Declarations

end DeployConfig
