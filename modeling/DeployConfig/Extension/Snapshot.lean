/-
  All settings at once.

  A snapshot holds the effective value of every setting and what is declared in structured fields.
  It either comes out whole or fails with the first override that does not parse.
-/
import DeployConfig.Extension.Basic

namespace DeployConfig

/-- The effective value of every setting, and the structured declarations. -/
structure Snapshot where
  buildStrategy : BuildStrategy
  resourceFileType : ResourceFileType
  flag : Flag → Bool
  number : NumberSetting → Int32
  text : TextSetting → Option String
  path : PathSetting → Path
  blockText : BlockText → Option String
  access : Option Access
  resources : Option Resources
  enricher : Option Processors
  generator : Option Processors
  images : Option (List Image)
  machine : Option Machine
  authConfig : Option RegistryAuth
  mappings : Option (List Mapping)

/-- The snapshot of an extension.  The enumerated settings are resolved first, then the numbers in
    their order; nothing else can fail. -/
def Extension.resolveAll (e : Extension) : Except PropertyError Snapshot := do
  let buildStrategy ← e.buildStrategy
  let resourceFileType ← e.resourceFileType
  let serviceUrlWait ← e.number .serviceUrlWaitTimeSeconds
  let pushRetries ← e.number .pushRetries
  let maxConnections ← e.number .maxConnections
  let d := e.declarations
  return {
    buildStrategy, resourceFileType
    flag := e.flag
    number
      | .serviceUrlWaitTimeSeconds => serviceUrlWait
      | .pushRetries => pushRetries
      | .maxConnections => maxConnections
    text := e.text
    path := e.path
    blockText := d.settings.blockText
    access := d.access
    resources := d.resources
    enricher := d.enricher
    generator := d.generator
    images := d.images.items
    machine := d.machine
    authConfig := d.authConfig
    mappings := d.mappings.items }

namespace Snapshot

/-! ## Written form -/

/-- The fields that follow from the build strategy or never change, and the enumerated settings. -/
def derivedFields (s : Snapshot) : Fields :=
  let flavour := some (.string (Enumeration.name Extension.flavour))
  [("runtimeMode", flavour), ("platformMode", flavour), ("resourceClassifier", flavour),
    ("supportOauthClients", some (.boolean Extension.supportsOAuthClients)),
    ("buildStrategy", some (.string (Enumeration.name s.buildStrategy))),
    ("resourceFileType", some (.string (Enumeration.name s.resourceFileType))),
    ("dockerAccessRequired", some (.boolean s.buildStrategy.requiresDockerAccess))]

/-- The field of a flag. -/
def flagField (s : Snapshot) (name : String) (f : Flag) : String × Option Value :=
  (name, some (.boolean (s.flag f)))

/-- The field of a number. -/
def numberField (s : Snapshot) (name : String) (n : NumberSetting) : String × Option Value :=
  (name, some (Writable.ofInteger (s.number n)))

/-- The field of a text, without a value if the text is unset. -/
def textField (s : Snapshot) (name : String) (t : TextSetting) : String × Option Value :=
  (name, (s.text t).map .string)

/-- The field of a path. -/
def pathField (s : Snapshot) (name : String) (p : PathSetting) : String × Option Value :=
  (name, some (Writable.ofPath (s.path p)))

/-- The fields of the settings that are not enumerated. -/
def settingFields (s : Snapshot) : Fields := [
  s.flagField "offline" .offline,
  s.flagField "useProjectClassPath" .useProjectClassPath,
  s.flagField "failOnValidationError" .failOnValidationError,
  s.flagField "mergeWithDekorate" .mergeWithDekorate,
  s.flagField "interpolateTemplateParameters" .interpolateTemplateParameters,
  s.flagField "skipResourceValidation" .skipResourceValidation,
  s.flagField "logFollow" .logFollow,
  s.textField "logPodName" .logPodName,
  s.textField "logContainerName" .logContainerName,
  s.flagField "recreate" .recreate,
  s.flagField "skip" .skip,
  s.flagField "skipApply" .skipApply,
  s.flagField "skipPush" .skipPush,
  s.flagField "skipTag" .skipTag,
  s.flagField "failOnNoKubernetesJson" .failOnNoKubernetesJson,
  s.flagField "createNewResources" .createNewResources,
  s.flagField "servicesOnly" .servicesOnly,
  s.flagField "ignoreServices" .ignoreServices,
  s.pathField "jsonLogDir" .jsonLogDir,
  s.flagField "deletePodsOnReplicationControllerUpdate" .deletePodsOnReplicationControllerUpdate,
  s.flagField "ignoreRunningOAuthClients" .ignoreRunningOAuthClients,
  s.flagField "processTemplatesLocally" .processTemplatesLocally,
  s.flagField "rollingUpgrades" .rollingUpgrades,
  s.flagField "rollingUpgradePreserveScale" .rollingUpgradePreserveScale,
  s.numberField "serviceUrlWaitTimeSeconds" .serviceUrlWaitTimeSeconds,
  s.pathField "kubernetesManifest" .kubernetesManifest,
  s.numberField "pushRetries" .pushRetries,
  s.flagField "skipExtendedAuth" .skipExtendedAuth,
  s.flagField "skipMachine" .skipMachine,
  s.flagField "useColor" .useColor,
  s.numberField "maxConnections" .maxConnections,
  s.textField "filter" .filter,
  s.textField "apiVersion" .apiVersion,
  s.textField "imagePullPolicy" .imagePullPolicy,
  s.textField "autoPull" .autoPull,
  s.textField "dockerHost" .dockerHost,
  s.textField "certPath" .certPath,
  s.flagField "forcePull" .forcePull,
  s.textField "registry" .registry,
  s.textField "pullRegistry" .pullRegistry,
  s.textField "buildRecreate" .buildRecreate,
  s.textField "buildSourceDirectory" .buildSourceDirectory,
  s.textField "buildOutputDirectory" .buildOutputDirectory,
  s.pathField "resourceSourceDirectory" .resourceSourceDirectory,
  s.pathField "resourceTargetDirectory" .resourceTargetDirectory,
  s.textField "resourceEnvironment" .resourceEnvironment,
  s.pathField "workDirectory" .workDirectory,
  s.textField "profile" .profile,
  s.textField "namespace" .nameSpace]

/-- The fields of the texts that only blocks assign. -/
def blockTextFields (s : Snapshot) : Fields := [
  ("minimalApiVersion", (s.blockText .minimalApiVersion).map .string),
  ("sourceDirectory", (s.blockText .sourceDirectory).map .string),
  ("outputDirectory", (s.blockText .outputDirectory).map .string),
  ("pushRegistry", (s.blockText .pushRegistry).map .string)]

/-- The fields of the structured declarations; what is undeclared has no field. -/
def structuredFields (s : Snapshot) : Fields :=
  let field (name : String) (value : Option Value) := (value.map fun v => (name, some v)).toList
  field "access" (s.access.map Writable.toValue)
    ++ field "resources" (s.resources.map Writable.toValue)
    ++ field "enricher" (s.enricher.map Writable.toValue)
    ++ field "generator" (s.generator.map Writable.toValue)
    ++ field "images" (s.images.map (Writable.ofList Writable.toValue))
    ++ field "machine" (s.machine.map Writable.toValue)
    ++ field "authConfig" (s.authConfig.map Writable.toValue)
    ++ field "mappings" (s.mappings.map (Writable.ofList Writable.toValue))

/-- The written form of a snapshot: its fields in order, where a field without a value is one that
    is unset. -/
def fields (s : Snapshot) : Fields :=
  s.derivedFields ++ s.settingFields ++ s.blockTextFields ++ s.structuredFields

end Snapshot

end DeployConfig
