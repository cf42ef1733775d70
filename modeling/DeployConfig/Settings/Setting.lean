/-
  Settings, grouped by what their values are.
-/

namespace DeployConfig

/-- The settings that are truth values. -/
inductive Flag where
  | offline
  | useProjectClassPath
  | failOnValidationError
  | mergeWithDekorate
  | interpolateTemplateParameters
  | skipResourceValidation
  | logFollow
  | recreate
  | skip
  | skipApply
  | skipPush
  | skipTag
  | failOnNoKubernetesJson
  | createNewResources
  | servicesOnly
  | ignoreServices
  | deletePodsOnReplicationControllerUpdate
  | ignoreRunningOAuthClients
  | processTemplatesLocally
  | rollingUpgrades
  | rollingUpgradePreserveScale
  | skipExtendedAuth
  | skipMachine
  | useColor
  | forcePull
  deriving DecidableEq, Repr

/-- The settings that are numbers. -/
inductive NumberSetting where
  | serviceUrlWaitTimeSeconds
  | pushRetries
  | maxConnections
  deriving DecidableEq, Repr

/-- The settings that are texts. -/
inductive TextSetting where
  | logPodName
  | logContainerName
  | filter
  | apiVersion
  | imagePullPolicy
  | autoPull
  | dockerHost
  | certPath
  | registry
  | pullRegistry
  | buildRecreate
  | buildSourceDirectory
  | buildOutputDirectory
  | resourceEnvironment
  | profile
  | nameSpace
  deriving DecidableEq, Repr

/-- The settings that are paths. -/
inductive PathSetting where
  | jsonLogDir
  | kubernetesManifest
  | resourceSourceDirectory
  | resourceTargetDirectory
  | workDirectory
  deriving DecidableEq, Repr

/-- The texts that a block may assign but that have neither a property key nor a default. -/
inductive BlockText where
  | minimalApiVersion
  | sourceDirectory
  | outputDirectory
  | pushRegistry
  deriving DecidableEq, Repr

/-- A setting that has a property key. -/
inductive Setting where
  | flag (setting : Flag)
  | number (setting : NumberSetting)
  | text (setting : TextSetting)
  | path (setting : PathSetting)
  | buildStrategy
  | resourceFileType
  deriving DecidableEq, Repr

end DeployConfig
