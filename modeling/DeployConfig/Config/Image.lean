/-
  Images to build and push.

  An image may hold a build, a build an assembly, an assembly layers and a layer files.  Layers and
  files are lists with two names: the plural one replaces the list, the singular one appends to it.
-/
import DeployConfig.Binding.Slot

namespace DeployConfig

/-- A file that is copied into a layer. -/
structure AssemblyFile where
  source : Option String := none
  outputDirectory : Option String := none
  deriving DecidableEq

instance : Bindable AssemblyFile where
  kind := "file"
  empty := {}
  slots := [
    .optional "source" .string (.mk (·.source) fun t v => { t with source := v }),
    .optional "outputDirectory" .string
      (.mk (·.outputDirectory) fun t v => { t with outputDirectory := v })]

instance : Writable AssemblyFile where
  fields f := [
    ("source", f.source.map .string),
    ("outputDirectory", f.outputDirectory.map .string)]

/-- One layer of an assembly. -/
structure Layer where
  id : Option String := none
  files : List AssemblyFile := []
  deriving DecidableEq

instance : Bindable Layer where
  kind := "layer"
  empty := {}
  slots := [
    .optional "id" .string (.mk (·.id) fun t v => { t with id := v }),
    .whole "files" (.nestedList AssemblyFile) (.mk (·.files) fun t v => { t with files := v }),
    .appending "file" (.nested AssemblyFile) (.mk (·.files) fun t v => { t with files := v })]

instance : Writable Layer where
  fields l := [
    ("id", l.id.map .string),
    ("files", Writable.list Writable.toValue l.files)]

/-- The files that are put into an image. -/
structure Assembly where
  name : Option String := none
  targetDir : Option String := none
  layers : List Layer := []
  deriving DecidableEq

instance : Bindable Assembly where
  kind := "assembly"
  empty := {}
  slots := [
    .optional "name" .string (.mk (·.name) fun t v => { t with name := v }),
    .optional "targetDir" .string (.mk (·.targetDir) fun t v => { t with targetDir := v }),
    .whole "layers" (.nestedList Layer) (.mk (·.layers) fun t v => { t with layers := v }),
    .appending "layer" (.nested Layer) (.mk (·.layers) fun t v => { t with layers := v })]

instance : Writable Assembly where
  fields a := [
    ("name", a.name.map .string),
    ("targetDir", a.targetDir.map .string),
    ("layers", Writable.list Writable.toValue a.layers)]

/-- How an image is built. -/
structure Build where
  fromImage : Option String := none
  dockerFile : Option String := none
  contextDir : Option String := none
  workdir : Option String := none
  user : Option String := none
  /-- Ports such as `8080` or `9090/udp`. -/
  ports : List String := []
  tags : List String := []
  env : OrderedMap String := .empty
  labels : OrderedMap String := .empty
  cmd : List String := []
  entryPoint : List String := []
  assembly : Option Assembly := none
  deriving DecidableEq

instance : Bindable Build where
  kind := "build"
  empty := {}
  slots := [
    .optional "from" .string (.mk (·.fromImage) fun t v => { t with fromImage := v }),
    .optional "dockerFile" .string (.mk (·.dockerFile) fun t v => { t with dockerFile := v }),
    .optional "contextDir" .string (.mk (·.contextDir) fun t v => { t with contextDir := v }),
    .optional "workdir" .string (.mk (·.workdir) fun t v => { t with workdir := v }),
    .optional "user" .string (.mk (·.user) fun t v => { t with user := v }),
    .whole "ports" .ports (.mk (·.ports) fun t v => { t with ports := v }),
    .whole "tags" .strings (.mk (·.tags) fun t v => { t with tags := v }),
    .whole "env" .stringMap (.mk (·.env) fun t v => { t with env := v }),
    .whole "labels" .stringMap (.mk (·.labels) fun t v => { t with labels := v }),
    .whole "cmd" .command (.mk (·.cmd) fun t v => { t with cmd := v }),
    .whole "entryPoint" .command (.mk (·.entryPoint) fun t v => { t with entryPoint := v }),
    .optional "assembly" (.nested Assembly) (.mk (·.assembly) fun t v => { t with assembly := v })]

instance : Writable Build where
  fields b := [
    ("from", b.fromImage.map .string),
    ("dockerFile", b.dockerFile.map .string),
    ("contextDir", b.contextDir.map .string),
    ("workdir", b.workdir.map .string),
    ("user", b.user.map .string),
    ("ports", Writable.list .string b.ports),
    ("tags", Writable.list .string b.tags),
    ("env", Writable.map .string b.env),
    ("labels", Writable.map .string b.labels),
    ("cmd", Writable.list .string b.cmd),
    ("entryPoint", Writable.list .string b.entryPoint),
    ("assembly", b.assembly.map Writable.toValue)]

/-- One image to build and push. -/
structure Image where
  name : Option String := none
  aliasName : Option String := none
  registry : Option String := none
  build : Option Build := none
  deriving DecidableEq

instance : Bindable Image where
  kind := "image"
  empty := {}
  slots := [
    .optional "name" .string (.mk (·.name) fun t v => { t with name := v }),
    .optional "alias" .string (.mk (·.aliasName) fun t v => { t with aliasName := v }),
    .optional "registry" .string (.mk (·.registry) fun t v => { t with registry := v }),
    .optional "build" (.nested Build) (.mk (·.build) fun t v => { t with build := v })]

instance : Writable Image where
  fields i := [
    ("name", i.name.map .string),
    ("alias", i.aliasName.map .string),
    ("registry", i.registry.map .string),
    ("build", i.build.map Writable.toValue)]

end DeployConfig
