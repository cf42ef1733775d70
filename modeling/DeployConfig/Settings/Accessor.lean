/-
  How settings are asked for.

  The accessor of a setting names the property key that overrides it, the declared value that counts
  otherwise, and the default that is left if nothing is declared.
-/
import DeployConfig.Project.Layout
import DeployConfig.Settings.Setting

namespace DeployConfig

/-- The property key, the declared value and the default of a setting. -/
structure Accessor (ι δ : Type) where
  key : String
  declared : ι
  fallback : δ

/-! ## Defaults -/

/-- The default of a text. -/
inductive TextDefault where
  /-- There is none. -/
  | unset
  /-- A fixed text. -/
  | literal (text : String)
  /-- Whatever the effective registry is. -/
  | effectiveRegistry
  deriving DecidableEq, Repr

/-- A place inside one of the project's directories. -/
structure Place where
  directory : Directory
  segments : List String
  deriving DecidableEq, Repr

/-- The path of a place in a project. -/
def Layout.place (layout : Layout) (p : Place) : Path :=
  (layout.directory p.directory).joinAll p.segments

/-! ## Accessors -/

/-- The accessor of the setting. -/
def Flag.accessor : Flag → Accessor Flag Bool
  | offline => ⟨"jkube.offline", .offline, false⟩
  | useProjectClassPath => ⟨"jkube.useProjectClasspath", .useProjectClassPath, false⟩
  | failOnValidationError => ⟨"jkube.failOnValidationError", .failOnValidationError, false⟩
  | mergeWithDekorate => ⟨"jkube.mergeWithDekorate", .mergeWithDekorate, false⟩
  | interpolateTemplateParameters =>
    ⟨"jkube.interpolateTemplateParameters", .interpolateTemplateParameters, true⟩
  | skipResourceValidation => ⟨"jkube.skipResourceValidation", .skipResourceValidation, false⟩
  | logFollow => ⟨"jkube.log.follow", .logFollow, true⟩
  | recreate => ⟨"jkube.recreate", .recreate, false⟩
  | skip => ⟨"jkube.skip", .skip, false⟩
  | skipApply => ⟨"jkube.skip.apply", .skipApply, false⟩
  | skipPush => ⟨"jkube.skip.push", .skipPush, false⟩
  | skipTag => ⟨"jkube.skip.tag", .skipTag, false⟩
  | failOnNoKubernetesJson =>
    ⟨"jkube.deploy.failOnNoKubernetesJson", .failOnNoKubernetesJson, false⟩
  | createNewResources => ⟨"jkube.deploy.create", .createNewResources, true⟩
  | servicesOnly => ⟨"jkube.deploy.servicesOnly", .servicesOnly, false⟩
  | ignoreServices => ⟨"jkube.deploy.ignoreServices", .ignoreServices, false⟩
  | deletePodsOnReplicationControllerUpdate =>
    ⟨"jkube.deploy.deletePods", .deletePodsOnReplicationControllerUpdate, true⟩
  | ignoreRunningOAuthClients =>
    ⟨"jkube.deploy.ignoreRunningOAuthClients", .ignoreRunningOAuthClients, true⟩
  | processTemplatesLocally =>
    ⟨"jkube.deploy.processTemplatesLocally", .processTemplatesLocally, true⟩
  | rollingUpgrades => ⟨"jkube.rolling", .rollingUpgrades, false⟩
  | rollingUpgradePreserveScale =>
    ⟨"jkube.rolling.preserveScale", .rollingUpgradePreserveScale, false⟩
  | skipExtendedAuth => ⟨"jkube.docker.skip.extendedAuth", .skipExtendedAuth, false⟩
  | skipMachine => ⟨"jkube.docker.skip.machine", .skipMachine, false⟩
  | useColor => ⟨"jkube.useColor", .useColor, true⟩
  | forcePull => ⟨"jkube.build.forcePull", .forcePull, false⟩

/-- The accessor of the setting. -/
def NumberSetting.accessor : NumberSetting → Accessor NumberSetting Int32
  | serviceUrlWaitTimeSeconds => ⟨"jkube.serviceUrl.waitSeconds", .serviceUrlWaitTimeSeconds, 5⟩
  | pushRetries => ⟨"jkube.docker.push.retries", .pushRetries, 0⟩
  | maxConnections => ⟨"jkube.docker.maxConnections", .maxConnections, 100⟩

/-- The accessor of the setting. -/
def TextSetting.accessor : TextSetting → Accessor TextSetting TextDefault
  | logPodName => ⟨"jkube.log.pod", .logPodName, .unset⟩
  | logContainerName => ⟨"jkube.log.container", .logContainerName, .unset⟩
  | filter => ⟨"jkube.image.filter", .filter, .unset⟩
  | apiVersion => ⟨"jkube.docker.apiVersion", .apiVersion, .unset⟩
  | imagePullPolicy => ⟨"jkube.docker.imagePullPolicy", .imagePullPolicy, .unset⟩
  | autoPull => ⟨"jkube.docker.autoPull", .autoPull, .unset⟩
  | dockerHost => ⟨"jkube.docker.host", .dockerHost, .unset⟩
  | certPath => ⟨"jkube.docker.certPath", .certPath, .unset⟩
  | registry => ⟨"jkube.docker.registry", .registry, .literal "docker.io"⟩
  | pullRegistry => ⟨"jkube.docker.pull.registry", .pullRegistry, .effectiveRegistry⟩
  | buildRecreate => ⟨"jkube.build.recreate", .buildRecreate, .literal "none"⟩
  | buildSourceDirectory =>
    ⟨"jkube.build.source.dir", .buildSourceDirectory, .literal "src/main/docker"⟩
  | buildOutputDirectory =>
    ⟨"jkube.build.target.dir", .buildOutputDirectory, .literal "build/docker"⟩
  | resourceEnvironment => ⟨"jkube.environment", .resourceEnvironment, .unset⟩
  | profile => ⟨"jkube.profile", .profile, .unset⟩
  | nameSpace => ⟨"jkube.namespace", .nameSpace, .unset⟩

/-- The accessor of the setting. -/
def PathSetting.accessor : PathSetting → Accessor PathSetting Place
  | jsonLogDir => ⟨"jkube.deploy.jsonLogDir", .jsonLogDir, ⟨.build, ["jkube", "applyJson"]⟩⟩
  | kubernetesManifest =>
    ⟨"jkube.kubernetesManifest", .kubernetesManifest,
      ⟨.output, ["META-INF", "jkube", "kubernetes.yml"]⟩⟩
  | resourceSourceDirectory =>
    ⟨"jkube.resourceDir", .resourceSourceDirectory, ⟨.base, ["src", "main", "jkube"]⟩⟩
  | resourceTargetDirectory =>
    ⟨"jkube.targetDir", .resourceTargetDirectory, ⟨.output, ["META-INF", "jkube"]⟩⟩
  | workDirectory => ⟨"jkube.workDir", .workDirectory, ⟨.build, ["jkube"]⟩⟩

/-- The property key of the setting. -/
def Flag.key (s : Flag) : String := s.accessor.key

/-- The property key of the setting. -/
def NumberSetting.key (s : NumberSetting) : String := s.accessor.key

/-- The property key of the setting. -/
def TextSetting.key (s : TextSetting) : String := s.accessor.key

/-- The property key of the setting. -/
def PathSetting.key (s : PathSetting) : String := s.accessor.key

/-- The default of the setting. -/
def Flag.fallback (s : Flag) : Bool := s.accessor.fallback

/-- The default of the setting. -/
def NumberSetting.fallback (s : NumberSetting) : Int32 := s.accessor.fallback

/-- The default of the setting. -/
def TextSetting.fallback (s : TextSetting) : TextDefault := s.accessor.fallback

/-- The default of the setting. -/
def PathSetting.fallback (s : PathSetting) : Place := s.accessor.fallback

/-- The property key of the setting. -/
def Setting.key : Setting → String
  | flag s => s.key
  | number s => s.key
  | text s => s.key
  | path s => s.key
  | buildStrategy => "jkube.build.strategy"
  | resourceFileType => "jkube.resourceType"

end DeployConfig
