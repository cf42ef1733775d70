/-
  Settings of generated resources.
-/
import DeployConfig.Binding.Slot

namespace DeployConfig

/-- One entry of a config map: a literal value or a file. -/
structure ConfigMapEntry where
  name : Option String := none
  value : Option String := none
  file : Option String := none
  deriving DecidableEq

instance : Bindable ConfigMapEntry where
  kind := "entry"
  empty := {}
  slots := [
    .optional "name" .string (.mk (·.name) fun t v => { t with name := v }),
    .optional "value" .string (.mk (·.value) fun t v => { t with value := v }),
    .optional "file" .string (.mk (·.file) fun t v => { t with file := v })]

instance : Writable ConfigMapEntry where
  fields e := [
    ("name", e.name.map .string),
    ("value", e.value.map .string),
    ("file", e.file.map .string)]

/-- A config map put together from literal values and files. -/
structure ConfigMap where
  name : Option String := none
  entries : List ConfigMapEntry := []
  deriving DecidableEq

instance : Bindable ConfigMap where
  kind := "configMap"
  empty := {}
  slots := [
    .optional "name" .string (.mk (·.name) fun t v => { t with name := v }),
    .whole "entries" (.nestedList ConfigMapEntry)
      (.mk (·.entries) fun t v => { t with entries := v }),
    .appending "entry" (.nested ConfigMapEntry)
      (.mk (·.entries) fun t v => { t with entries := v })]

instance : Writable ConfigMap where
  fields c := [
    ("name", c.name.map .string),
    ("entries", Writable.list Writable.toValue c.entries)]

/-- Labels or annotations for each kind of generated resource. -/
structure Metadata where
  /-- For every generated resource. -/
  all : OrderedMap String := .empty
  deployment : OrderedMap String := .empty
  pod : OrderedMap String := .empty
  replicaSet : OrderedMap String := .empty
  service : OrderedMap String := .empty
  ingress : OrderedMap String := .empty
  deriving DecidableEq

instance : Bindable Metadata where
  kind := "metadata"
  empty := {}
  slots := [
    .whole "all" .stringMap (.mk (·.all) fun t v => { t with all := v }),
    .whole "deployment" .stringMap (.mk (·.deployment) fun t v => { t with deployment := v }),
    .whole "pod" .stringMap (.mk (·.pod) fun t v => { t with pod := v }),
    .whole "replicaSet" .stringMap (.mk (·.replicaSet) fun t v => { t with replicaSet := v }),
    .whole "service" .stringMap (.mk (·.service) fun t v => { t with service := v }),
    .whole "ingress" .stringMap (.mk (·.ingress) fun t v => { t with ingress := v })]

instance : Writable Metadata where
  fields m := [
    ("all", Writable.map .string m.all),
    ("deployment", Writable.map .string m.deployment),
    ("pod", Writable.map .string m.pod),
    ("replicaSet", Writable.map .string m.replicaSet),
    ("service", Writable.map .string m.service),
    ("ingress", Writable.map .string m.ingress)]

/-- Settings of the controller and of what is generated around it. -/
structure Resources where
  controllerName : Option String := none
  imagePullPolicy : Option String := none
  replicas : Option Int32 := none
  nameSpace : Option String := none
  serviceAccount : Option String := none
  env : OrderedMap String := .empty
  labels : Option Metadata := none
  annotations : Option Metadata := none
  configMap : Option ConfigMap := none
  remotes : List String := []
  customResourceDefinitions : List String := []
  deriving DecidableEq

instance : Bindable Resources where
  kind := "resources"
  empty := {}
  slots := [
    .optional "controllerName" .string
      (.mk (·.controllerName) fun t v => { t with controllerName := v }),
    .optional "imagePullPolicy" .string
      (.mk (·.imagePullPolicy) fun t v => { t with imagePullPolicy := v }),
    .optional "replicas" (.integer Int32) (.mk (·.replicas) fun t v => { t with replicas := v }),
    .optional "namespace" .string (.mk (·.nameSpace) fun t v => { t with nameSpace := v }),
    .optional "serviceAccount" .string
      (.mk (·.serviceAccount) fun t v => { t with serviceAccount := v }),
    .whole "env" .stringMap (.mk (·.env) fun t v => { t with env := v }),
    .optional "labels" (.nested Metadata) (.mk (·.labels) fun t v => { t with labels := v }),
    .optional "annotations" (.nested Metadata)
      (.mk (·.annotations) fun t v => { t with annotations := v }),
    .optional "configMap" (.nested ConfigMap)
      (.mk (·.configMap) fun t v => { t with configMap := v }),
    .whole "remotes" .strings (.mk (·.remotes) fun t v => { t with remotes := v }),
    .whole "customResourceDefinitions" .strings
      (.mk (·.customResourceDefinitions) fun t v => { t with customResourceDefinitions := v })]

instance : Writable Resources where
  fields r := [
    ("controllerName", r.controllerName.map .string),
    ("imagePullPolicy", r.imagePullPolicy.map .string),
    ("replicas", r.replicas.map Writable.ofInteger),
    ("namespace", r.nameSpace.map .string),
    ("serviceAccount", r.serviceAccount.map .string),
    ("env", Writable.map .string r.env),
    ("labels", r.labels.map Writable.toValue),
    ("annotations", r.annotations.map Writable.toValue),
    ("configMap", r.configMap.map Writable.toValue),
    ("remotes", Writable.list .string r.remotes),
    ("customResourceDefinitions", Writable.list .string r.customResourceDefinitions)]

end DeployConfig
