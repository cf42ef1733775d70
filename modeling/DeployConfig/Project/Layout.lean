/-
  The directories of a project.

  The build tool hands over three directories: the project base, the build directory and the
  directory of compiled output.  Settings that are paths take their defaults from these, and a
  path given as an override is seen from the base.
-/
import DeployConfig.Project.Path

namespace DeployConfig

/-- The directories of the project being configured. -/
structure Layout where
  base : Path
  build : Path
  output : Path
  deriving DecidableEq, Repr

/-- One of the directories of a project. -/
inductive Directory where
  | base
  | build
  | output
  deriving DecidableEq, Repr

namespace Layout

/-- The path of one of the directories. -/
def directory (layout : Layout) : Directory → Path
  | .base => layout.base
  | .build => layout.build
  | .output => layout.output

/-- The conventional directories under a base: `build`, and `classes/java/main` inside it. -/
def conventional (base : Path) : Layout :=
  let build := base.join "build"
  ⟨base, build, build.joinAll ["classes", "java", "main"]⟩

/-- The conventional directories under a base that has to be absolute; nothing else is asked of
    it. -/
def ofBase? (base : Path) : Option Layout :=
  if base.isAbsolute then some (conventional base) else none

/-- A path seen from the base directory. -/
def resolve (layout : Layout) (path : String) : Path := layout.base.join path

/-- Every directory of the conventional layout of an absolute base is absolute. -/
theorem isAbsolute_directory_conventional {base : Path} (h : base.isAbsolute = true)
    (d : Directory) : ((conventional base).directory d).isAbsolute = true := by
  cases d with
  | base => exact h
  | build => exact Path.isAbsolute_join _ h
  | output => exact Path.isAbsolute_joinAll _ (Path.isAbsolute_join _ h)

end Layout

end DeployConfig
