/-
  Settings as a block declares them.

  A setting that no block assigned is unset, and the resolution then falls back to its default.
-/
import DeployConfig.Binding.Slot
import DeployConfig.Settings.Setting

namespace DeployConfig

/-- The values that blocks assigned to settings. -/
structure Declared where
  flag : Flag → Option Bool := fun _ => none
  number : NumberSetting → Option Int32 := fun _ => none
  text : TextSetting → Option String := fun _ => none
  path : PathSetting → Option Path := fun _ => none
  blockText : BlockText → Option String := fun _ => none

/-- The part of a target that one argument of a function-valued part selects. -/
def Part.at {T ι α : Type} [DecidableEq ι] (part : Part T (ι → α)) (i : ι) : Part T α where
  get t := part.get t i
  set t a := part.set t fun j => if j = i then a else part.get t j
  get_set t a := by simp [part.get_set]
  set_get t := by
    have same : (fun j => if j = i then part.get t i else part.get t j) = part.get t := by
      funext j
      split
      · rename_i h
        rw [h]
      · rfl
    rw [same, part.set_get]
  set_set t a b := by
    rw [part.set_set, part.get_set]
    congr 1
    funext j
    by_cases h : j = i <;> simp [h]

namespace Declared

/-! ## The field table -/

/-- The slot of a flag. -/
def flagSlot (name : String) (s : Flag) : Slot Declared :=
  .optional name .boolean (Part.at (.mk (·.flag) fun t v => { t with flag := v }) s)

/-- The slot of a number. -/
def numberSlot (name : String) (s : NumberSetting) : Slot Declared :=
  .optional name (.integer Int32) (Part.at (.mk (·.number) fun t v => { t with number := v }) s)

/-- The slot of a text. -/
def textSlot (name : String) (s : TextSetting) : Slot Declared :=
  .optional name .string (Part.at (.mk (·.text) fun t v => { t with text := v }) s)

/-- The slot of a path. -/
def pathSlot (name : String) (s : PathSetting) : Slot Declared :=
  .optional name .path (Part.at (.mk (·.path) fun t v => { t with path := v }) s)

/-- The slot of a text that only blocks assign. -/
def blockTextSlot (name : String) (s : BlockText) : Slot Declared :=
  .optional name .string (Part.at (.mk (·.blockText) fun t v => { t with blockText := v }) s)

instance : Bindable Declared where
  kind := "kubernetes"
  empty := {}
  slots := [
    flagSlot "offline" .offline,
    flagSlot "useProjectClassPath" .useProjectClassPath,
    flagSlot "failOnValidationError" .failOnValidationError,
    flagSlot "mergeWithDekorate" .mergeWithDekorate,
    flagSlot "interpolateTemplateParameters" .interpolateTemplateParameters,
    flagSlot "skipResourceValidation" .skipResourceValidation,
    flagSlot "logFollow" .logFollow,
    textSlot "logPodName" .logPodName,
    textSlot "logContainerName" .logContainerName,
    flagSlot "recreate" .recreate,
    flagSlot "skip" .skip,
    flagSlot "skipApply" .skipApply,
    flagSlot "skipPush" .skipPush,
    flagSlot "skipTag" .skipTag,
    flagSlot "failOnNoKubernetesJson" .failOnNoKubernetesJson,
    flagSlot "createNewResources" .createNewResources,
    flagSlot "servicesOnly" .servicesOnly,
    flagSlot "ignoreServices" .ignoreServices,
    pathSlot "jsonLogDir" .jsonLogDir,
    flagSlot "deletePodsOnReplicationControllerUpdate" .deletePodsOnReplicationControllerUpdate,
    flagSlot "ignoreRunningOAuthClients" .ignoreRunningOAuthClients,
    flagSlot "processTemplatesLocally" .processTemplatesLocally,
    flagSlot "rollingUpgrades" .rollingUpgrades,
    flagSlot "rollingUpgradePreserveScale" .rollingUpgradePreserveScale,
    numberSlot "serviceUrlWaitTimeSeconds" .serviceUrlWaitTimeSeconds,
    pathSlot "kubernetesManifest" .kubernetesManifest,
    numberSlot "pushRetries" .pushRetries,
    flagSlot "skipExtendedAuth" .skipExtendedAuth,
    flagSlot "skipMachine" .skipMachine,
    flagSlot "useColor" .useColor,
    numberSlot "maxConnections" .maxConnections,
    textSlot "filter" .filter,
    textSlot "apiVersion" .apiVersion,
    textSlot "imagePullPolicy" .imagePullPolicy,
    textSlot "autoPull" .autoPull,
    textSlot "dockerHost" .dockerHost,
    textSlot "certPath" .certPath,
    textSlot "registry" .registry,
    textSlot "pullRegistry" .pullRegistry,
    flagSlot "forcePull" .forcePull,
    textSlot "buildRecreate" .buildRecreate,
    textSlot "buildSourceDirectory" .buildSourceDirectory,
    textSlot "buildOutputDirectory" .buildOutputDirectory,
    pathSlot "resourceSourceDirectory" .resourceSourceDirectory,
    pathSlot "resourceTargetDirectory" .resourceTargetDirectory,
    textSlot "resourceEnvironment" .resourceEnvironment,
    pathSlot "workDirectory" .workDirectory,
    textSlot "profile" .profile,
    textSlot "namespace" .nameSpace,
    blockTextSlot "minimalApiVersion" .minimalApiVersion,
    blockTextSlot "sourceDirectory" .sourceDirectory,
    blockTextSlot "outputDirectory" .outputDirectory,
    blockTextSlot "pushRegistry" .pushRegistry]

/-! ## The written form -/

instance : Writable Declared where
  fields d := [
    ("offline", (d.flag .offline).map .boolean),
    ("useProjectClassPath", (d.flag .useProjectClassPath).map .boolean),
    ("failOnValidationError", (d.flag .failOnValidationError).map .boolean),
    ("mergeWithDekorate", (d.flag .mergeWithDekorate).map .boolean),
    ("interpolateTemplateParameters", (d.flag .interpolateTemplateParameters).map .boolean),
    ("skipResourceValidation", (d.flag .skipResourceValidation).map .boolean),
    ("logFollow", (d.flag .logFollow).map .boolean),
    ("logPodName", (d.text .logPodName).map .string),
    ("logContainerName", (d.text .logContainerName).map .string),
    ("recreate", (d.flag .recreate).map .boolean),
    ("skip", (d.flag .skip).map .boolean),
    ("skipApply", (d.flag .skipApply).map .boolean),
    ("skipPush", (d.flag .skipPush).map .boolean),
    ("skipTag", (d.flag .skipTag).map .boolean),
    ("failOnNoKubernetesJson", (d.flag .failOnNoKubernetesJson).map .boolean),
    ("createNewResources", (d.flag .createNewResources).map .boolean),
    ("servicesOnly", (d.flag .servicesOnly).map .boolean),
    ("ignoreServices", (d.flag .ignoreServices).map .boolean),
    ("jsonLogDir", (d.path .jsonLogDir).map Writable.ofPath),
    ("deletePodsOnReplicationControllerUpdate",
      (d.flag .deletePodsOnReplicationControllerUpdate).map .boolean),
    ("ignoreRunningOAuthClients", (d.flag .ignoreRunningOAuthClients).map .boolean),
    ("processTemplatesLocally", (d.flag .processTemplatesLocally).map .boolean),
    ("rollingUpgrades", (d.flag .rollingUpgrades).map .boolean),
    ("rollingUpgradePreserveScale", (d.flag .rollingUpgradePreserveScale).map .boolean),
    ("serviceUrlWaitTimeSeconds", (d.number .serviceUrlWaitTimeSeconds).map Writable.ofInteger),
    ("kubernetesManifest", (d.path .kubernetesManifest).map Writable.ofPath),
    ("pushRetries", (d.number .pushRetries).map Writable.ofInteger),
    ("skipExtendedAuth", (d.flag .skipExtendedAuth).map .boolean),
    ("skipMachine", (d.flag .skipMachine).map .boolean),
    ("useColor", (d.flag .useColor).map .boolean),
    ("maxConnections", (d.number .maxConnections).map Writable.ofInteger),
    ("filter", (d.text .filter).map .string),
    ("apiVersion", (d.text .apiVersion).map .string),
    ("imagePullPolicy", (d.text .imagePullPolicy).map .string),
    ("autoPull", (d.text .autoPull).map .string),
    ("dockerHost", (d.text .dockerHost).map .string),
    ("certPath", (d.text .certPath).map .string),
    ("registry", (d.text .registry).map .string),
    ("pullRegistry", (d.text .pullRegistry).map .string),
    ("forcePull", (d.flag .forcePull).map .boolean),
    ("buildRecreate", (d.text .buildRecreate).map .string),
    ("buildSourceDirectory", (d.text .buildSourceDirectory).map .string),
    ("buildOutputDirectory", (d.text .buildOutputDirectory).map .string),
    ("resourceSourceDirectory", (d.path .resourceSourceDirectory).map Writable.ofPath),
    ("resourceTargetDirectory", (d.path .resourceTargetDirectory).map Writable.ofPath),
    ("resourceEnvironment", (d.text .resourceEnvironment).map .string),
    ("workDirectory", (d.path .workDirectory).map Writable.ofPath),
    ("profile", (d.text .profile).map .string),
    ("namespace", (d.text .nameSpace).map .string),
    ("minimalApiVersion", (d.blockText .minimalApiVersion).map .string),
    ("sourceDirectory", (d.blockText .sourceDirectory).map .string),
    ("outputDirectory", (d.blockText .outputDirectory).map .string),
    ("pushRegistry", (d.blockText .pushRegistry).map .string)]

end Declared

end DeployConfig
