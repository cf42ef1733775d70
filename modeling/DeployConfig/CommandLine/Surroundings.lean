/-
  What a configuration is loaded from, and the extensions it leads to.

  Properties are layered: files from left to right, then the environment, then those given one by
  one.  The document is the one that the arguments name, or else the first of some names that
  exists in the base directory; without a document nothing is declared.
-/
import DeployConfig.CommandLine.Arguments
import DeployConfig.Extension.Load

namespace DeployConfig

/-- What a configuration is loaded from. -/
structure Surroundings where
  files : Files
  workingDirectory : Path
  /-- The environment variables; a later one of the same name wins. -/
  environment : List (String × String)

namespace Source

/-- The base directory, seen from the working directory. -/
def baseDirectory (source : Source) (workingDirectory : Path) : Path :=
  match source.base with
  | some base => workingDirectory.join base.text
  | none => workingDirectory

/-- The names of documents that are looked for in the base directory. -/
def documentNames : List String := ["kubext.toml", "kubext.yaml", "kubext.yml"]

/-- The documents that are looked for if the arguments name none. -/
def defaultDocuments (base : Path) : List Path := documentNames.map base.join

/-- The files that a configuration may be read from. -/
def paths (source : Source) (workingDirectory : Path) : List Path :=
  source.properties ++ match source.config with
    | some path => [path]
    | none => defaultDocuments (source.baseDirectory workingDirectory)

/-- The properties of all files, of which a later one wins. -/
def fileProperties (source : Source) (files : Files) : Except Failure Properties := do
  let texts ← source.properties.mapM fun path => (files.readText path).mapError Failure.file
  return (texts.map Properties.ofText).foldl Properties.merge .empty

/-- The properties of all layers. -/
def collect (source : Source) (s : Surroundings) : Except Failure Properties := do
  let fromFiles ← source.fileProperties s.files
  let fromEnvironment :=
    if source.fromEnvironment then Properties.ofEnvironment s.environment else .empty
  return (fromFiles.merge fromEnvironment).insertAll source.defines

/-- The document to load, if there is one. -/
def document? (source : Source) (s : Surroundings) : Except Failure (Option Path) :=
  match source.config with
  | some path =>
    if s.files.isFile path then .ok (some path) else .error (.configurationNotFound path)
  | none =>
    .ok ((defaultDocuments (source.baseDirectory s.workingDirectory)).find? s.files.isFile)

/-- The project with its properties. -/
def project (source : Source) (s : Surroundings) : Except Failure Project := do
  let properties ← source.collect s
  let base := source.baseDirectory s.workingDirectory
  match Layout.ofBase? base with
  | some layout => return ⟨layout, properties⟩
  | none => .error (.relativeBase base)

/-- The extension that a command works on. -/
def extension (source : Source) (s : Surroundings) : Except Failure Extension := do
  let project ← source.project s
  match ← source.document? s with
  | some path => Extension.load s.files project path
  | none => return ⟨project, {}⟩

/-- All settings of a source, or why they cannot be told. -/
def settings (source : Source) (s : Surroundings) : Except Failure Snapshot := do
  let e ← source.extension s
  e.resolveAll.mapError Failure.property

end Source

end DeployConfig
