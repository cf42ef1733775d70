/-
  The catalog of settings.

  A row of the catalog tells of one setting the name under which blocks assign it, the property key
  that overrides it, the kind of its values, and its default in words: a dash for none, a path that
  starts at one of the project's directories, or the value itself.
-/
import DeployConfig.Text.Case

namespace DeployConfig

/-- The kinds of settings. -/
inductive SettingKind where
  | boolean
  | integer
  | string
  | path
  | enumeration
  deriving DecidableEq, Repr

/-- What a kind is called. -/
def SettingKind.name : SettingKind → String
  | boolean => "boolean"
  | integer => "integer"
  | string => "string"
  | path => "path"
  | enumeration => "enum"

/-- A row of the catalog. -/
structure CatalogRow where
  name : String
  key : String
  kind : SettingKind
  fallback : String
  deriving DecidableEq, Repr

/-- The rows of all settings. -/
def catalog : List CatalogRow := [
  ⟨"offline", "jkube.offline", .boolean, "false"⟩,
  ⟨"useProjectClassPath", "jkube.useProjectClasspath", .boolean, "false"⟩,
  ⟨"failOnValidationError", "jkube.failOnValidationError", .boolean, "false"⟩,
  ⟨"mergeWithDekorate", "jkube.mergeWithDekorate", .boolean, "false"⟩,
  ⟨"interpolateTemplateParameters", "jkube.interpolateTemplateParameters", .boolean, "true"⟩,
  ⟨"skipResourceValidation", "jkube.skipResourceValidation", .boolean, "false"⟩,
  ⟨"logFollow", "jkube.log.follow", .boolean, "true"⟩,
  ⟨"logPodName", "jkube.log.pod", .string, "-"⟩,
  ⟨"logContainerName", "jkube.log.container", .string, "-"⟩,
  ⟨"recreate", "jkube.recreate", .boolean, "false"⟩,
  ⟨"skip", "jkube.skip", .boolean, "false"⟩,
  ⟨"skipApply", "jkube.skip.apply", .boolean, "false"⟩,
  ⟨"skipPush", "jkube.skip.push", .boolean, "false"⟩,
  ⟨"skipTag", "jkube.skip.tag", .boolean, "false"⟩,
  ⟨"failOnNoKubernetesJson", "jkube.deploy.failOnNoKubernetesJson", .boolean, "false"⟩,
  ⟨"createNewResources", "jkube.deploy.create", .boolean, "true"⟩,
  ⟨"servicesOnly", "jkube.deploy.servicesOnly", .boolean, "false"⟩,
  ⟨"ignoreServices", "jkube.deploy.ignoreServices", .boolean, "false"⟩,
  ⟨"jsonLogDir", "jkube.deploy.jsonLogDir", .path, "<build>/jkube/applyJson"⟩,
  ⟨"deletePodsOnReplicationControllerUpdate", "jkube.deploy.deletePods", .boolean, "true"⟩,
  ⟨"ignoreRunningOAuthClients", "jkube.deploy.ignoreRunningOAuthClients", .boolean, "true"⟩,
  ⟨"processTemplatesLocally", "jkube.deploy.processTemplatesLocally", .boolean, "true"⟩,
  ⟨"rollingUpgrades", "jkube.rolling", .boolean, "false"⟩,
  ⟨"rollingUpgradePreserveScale", "jkube.rolling.preserveScale", .boolean, "false"⟩,
  ⟨"serviceUrlWaitTimeSeconds", "jkube.serviceUrl.waitSeconds", .integer, "5"⟩,
  ⟨"kubernetesManifest", "jkube.kubernetesManifest",
    .path, "<output>/META-INF/jkube/kubernetes.yml"⟩,
  ⟨"pushRetries", "jkube.docker.push.retries", .integer, "0"⟩,
  ⟨"skipExtendedAuth", "jkube.docker.skip.extendedAuth", .boolean, "false"⟩,
  ⟨"skipMachine", "jkube.docker.skip.machine", .boolean, "false"⟩,
  ⟨"useColor", "jkube.useColor", .boolean, "true"⟩,
  ⟨"maxConnections", "jkube.docker.maxConnections", .integer, "100"⟩,
  ⟨"filter", "jkube.image.filter", .string, "-"⟩,
  ⟨"apiVersion", "jkube.docker.apiVersion", .string, "-"⟩,
  ⟨"imagePullPolicy", "jkube.docker.imagePullPolicy", .string, "-"⟩,
  ⟨"autoPull", "jkube.docker.autoPull", .string, "-"⟩,
  ⟨"dockerHost", "jkube.docker.host", .string, "-"⟩,
  ⟨"certPath", "jkube.docker.certPath", .string, "-"⟩,
  ⟨"registry", "jkube.docker.registry", .string, "docker.io"⟩,
  ⟨"pullRegistry", "jkube.docker.pull.registry", .string, "<registry>"⟩,
  ⟨"forcePull", "jkube.build.forcePull", .boolean, "false"⟩,
  ⟨"buildRecreate", "jkube.build.recreate", .string, "none"⟩,
  ⟨"buildSourceDirectory", "jkube.build.source.dir", .string, "src/main/docker"⟩,
  ⟨"buildOutputDirectory", "jkube.build.target.dir", .string, "build/docker"⟩,
  ⟨"buildStrategy", "jkube.build.strategy", .enumeration, "docker"⟩,
  ⟨"resourceSourceDirectory", "jkube.resourceDir", .path, "<base>/src/main/jkube"⟩,
  ⟨"resourceTargetDirectory", "jkube.targetDir", .path, "<output>/META-INF/jkube"⟩,
  ⟨"resourceFileType", "jkube.resourceType", .enumeration, "yaml"⟩,
  ⟨"resourceEnvironment", "jkube.environment", .string, "-"⟩,
  ⟨"workDirectory", "jkube.workDir", .path, "<build>/jkube"⟩,
  ⟨"profile", "jkube.profile", .string, "-"⟩,
  ⟨"namespace", "jkube.namespace", .string, "-"⟩]

/-- The environment variable of a property key: `jkube.log.pod` is set by `JKUBE_LOG_POD`. -/
def environmentName (key : String) : String :=
  Text.upper (String.ofList (key.toList.map fun c => if c == '.' then '_' else c))

end DeployConfig
