/-
  Enumerated values and their names.

  A value of an enumeration is written by its name, exactly and in lower case; a text that names
  no member is answered with the list of the names.  What is written, what is read and what is
  listed are three tables.
-/

namespace DeployConfig

/-- A type with finitely many members, each known by a name. -/
class Enumeration (α : Type) where
  /-- What the members are called together, as messages use it. -/
  kind : String
  /-- The names, in the order in which messages list them. -/
  expected : List String
  /-- The member that a text names, if it names one. -/
  ofName? : String → Option α
  /-- The name of a member. -/
  name : α → String

/-- A text that names no member of an enumeration. -/
structure UnknownVariant where
  kind : String
  value : String
  expected : List String
  deriving DecidableEq, Repr

/-- What an unknown name is answered with. -/
def UnknownVariant.message (e : UnknownVariant) : String :=
  "Unknown " ++ e.kind ++ " '" ++ e.value ++ "', expected one of: "
    ++ ", ".intercalate e.expected

namespace Enumeration

/-- The member of a name, or the complaint that there is none. -/
def parse (α : Type) [Enumeration α] (text : String) : Except UnknownVariant α :=
  match ofName? (α := α) text with
  | some a => .ok a
  | none => .error ⟨kind α, text, expected α⟩

end Enumeration

/-- How container images are built. -/
inductive BuildStrategy where
  | s2i
  | docker
  | jib
  | buildpacks
  deriving DecidableEq, Repr

instance : Inhabited BuildStrategy := ⟨.docker⟩

/-- Builds talk to a Docker daemon under every strategy but `jib`. -/
def BuildStrategy.requiresDockerAccess : BuildStrategy → Bool
  | jib => false
  | _ => true

instance : Enumeration BuildStrategy where
  kind := "build strategy"
  expected := ["s2i", "docker", "jib", "buildpacks"]
  ofName?
    | "s2i" => some .s2i
    | "docker" => some .docker
    | "jib" => some .jib
    | "buildpacks" => some .buildpacks
    | _ => none
  name
    | .s2i => "s2i"
    | .docker => "docker"
    | .jib => "jib"
    | .buildpacks => "buildpacks"

/-- The format of generated resource files. -/
inductive ResourceFileType where
  | json
  | yaml
  deriving DecidableEq, Repr

instance : Inhabited ResourceFileType := ⟨.yaml⟩

instance : Enumeration ResourceFileType where
  kind := "resource file type"
  expected := ["json", "yaml"]
  ofName?
    | "json" => some .json
    | "yaml" => some .yaml
    | _ => none
  name
    | .json => "json"
    | .yaml => "yaml"

/-- The flavour of a cluster: what is targeted at run time, whose resource dialect is generated,
    and how generated manifests are classified. -/
inductive ClusterFlavour where
  | kubernetes
  | openshift
  deriving DecidableEq, Repr

instance : Enumeration ClusterFlavour where
  kind := "cluster flavour"
  expected := ["kubernetes", "openshift"]
  ofName?
    | "kubernetes" => some .kubernetes
    | "openshift" => some .openshift
    | _ => none
  name
    | .kubernetes => "kubernetes"
    | .openshift => "openshift"

end DeployConfig
