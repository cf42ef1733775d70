/-
  The extension: a project and what is declared for it.

  Every question about a setting is answered afresh from the project's properties, the declarations
  and the defaults.
-/
import DeployConfig.Extension.Declarations
import DeployConfig.Settings.Accessor
import DeployConfig.Settings.Resolve

namespace DeployConfig

/-- A project: its directories and its properties. -/
structure Project where
  layout : Layout
  properties : Properties
  deriving DecidableEq

/-- A project and what is declared for it. -/
structure Extension where
  project : Project
  declarations : Declarations := {}

namespace Extension

/-- The properties of the project. -/
def properties (e : Extension) : Properties := e.project.properties

/-- The extension after a block; if the block fails, what was declared before the failure stays. -/
def apply (e : Extension) (block : Block) : Outcome Extension :=
  (e.declarations.apply block).map fun d => { e with declarations := d }

/-! ## Declaring one field -/

/-- The extension with other declarations; if there are none, because of an error, as it was. -/
def redeclared (e : Extension) (changed : Except BindError Declarations) : Outcome Extension :=
  .ofExcept e (changed.map fun d => { e with declarations := d })

/-- The extension after one block for a section. -/
def declare (e : Extension) (block : Block) (s : Declarations.Section) : Outcome Extension :=
  e.redeclared (e.declarations.declare block s)

/-- The extension after a list of blocks for the images. -/
def declareImages (e : Extension) (blocks : List Block) : Outcome Extension :=
  e.redeclared (e.declarations.declareImages blocks)

/-- The extension after a list of blocks for the mappings. -/
def declareMappings (e : Extension) (blocks : List Block) : Outcome Extension :=
  e.redeclared (e.declarations.declareMappings blocks)

/-- The extension with a build strategy declared. -/
def setBuildStrategy (e : Extension) (s : BuildStrategy) : Extension :=
  { e with declarations := { e.declarations with buildStrategy := some s } }

/-- The extension with a resource file type declared. -/
def setResourceFileType (e : Extension) (t : ResourceFileType) : Extension :=
  { e with declarations := { e.declarations with resourceFileType := some t } }

/-! ## Effective values -/

/-- The effective value of a flag. -/
def flag (e : Extension) (s : Flag) : Bool :=
  let a := s.accessor
  e.properties.pick a.key isTrueWord ((e.declarations.settings.flag a.declared).getD a.fallback)

/-- The effective value of a number; an override that is no number of its width fails. -/
def number (e : Extension) (s : NumberSetting) : Except PropertyError Int32 :=
  let a := s.accessor
  e.properties.resolve a.key (e.declarations.settings.number a.declared) a.fallback

/-- The override or the declared value of a text, and otherwise the one given. -/
def textOr (e : Extension) (s : TextSetting) (fallback : Option String) : Option String :=
  let a := s.accessor
  e.properties.pick a.key some (e.declarations.settings.text a.declared <|> fallback)

/-- The effective registry. -/
def registry (e : Extension) : Option String :=
  e.textOr .registry (match TextSetting.registry.fallback with
    | .literal text => some text
    | _ => none)

/-- The effective value of a text, if it has one. -/
def text (e : Extension) (s : TextSetting) : Option String :=
  e.textOr s (match s.fallback with
    | .unset => none
    | .literal text => some text
    | .effectiveRegistry => e.registry)

/-- The effective value of a path. -/
def path (e : Extension) (s : PathSetting) : Path :=
  let a := s.accessor
  e.properties.resolvePath e.project.layout a.key (e.declarations.settings.path a.declared)
    (e.project.layout.place a.fallback)

/-- The effective build strategy. -/
def buildStrategy (e : Extension) : Except PropertyError BuildStrategy :=
  e.properties.resolveField Setting.buildStrategy.key e.declarations.plainBuildStrategy

/-- The effective resource file type. -/
def resourceFileType (e : Extension) : Except PropertyError ResourceFileType :=
  e.properties.resolveField Setting.resourceFileType.key e.declarations.plainResourceFileType

/-- Whether builds need a Docker daemon. -/
def dockerAccessRequired (e : Extension) : Except PropertyError Bool :=
  e.buildStrategy.map BuildStrategy.requiresDockerAccess

/-- The effective value of any setting, in written form. -/
def value (e : Extension) : Setting → Except PropertyError (Option Value)
  | .flag s => .ok (some (.boolean (e.flag s)))
  | .number s => (e.number s).map fun n => some ((Codec.integer Int32).write n)
  | .text s => .ok ((e.text s).map Value.string)
  | .path s => .ok (some (Codec.path.write (e.path s)))
  | .buildStrategy => e.buildStrategy.map fun s => some ((Codec.choice BuildStrategy).write s)
  | .resourceFileType =>
    e.resourceFileType.map fun t => some ((Codec.choice ResourceFileType).write t)

/-! ## What never changes -/

/-- The flavour of cluster that the extension is made for. -/
def flavour : ClusterFlavour := .kubernetes

/-- The extension has no support for OAuth clients. -/
def supportsOAuthClients : Bool := false

/-! ## The manifest -/

/-- What is said when the cluster at hand is of another flavour. -/
def flavourWarnings : List String := [
  "OpenShift cluster detected, using Kubernetes manifests",
  "Switch to openshift-gradle-plugin in case there are any problems"]

/-- The manifest to apply, and warnings; the flavour of the cluster only adds warnings. -/
def manifest (e : Extension) (cluster : ClusterFlavour) : Path × List String :=
  (e.path .kubernetesManifest, if cluster = flavour then [] else flavourWarnings)

end Extension

end DeployConfig
