/-
  Why a file cannot be read as text.
-/
import DeployConfig.Project.Path

namespace DeployConfig

/-- Why a file cannot be read as text. -/
inductive FileProblem where
  | notFound
  | isDirectory
  | notADirectory
  | notUtf8
  | nulInPath
  /-- Anything else that the operating system says. -/
  | other (reason : String)
  deriving DecidableEq, Repr

/-- What the operating system says about the problem. -/
def FileProblem.message : FileProblem → String
  | notFound => "No such file or directory (os error 2)"
  | isDirectory => "Is a directory (os error 21)"
  | notADirectory => "Not a directory (os error 20)"
  | notUtf8 => "stream did not contain valid UTF-8"
  | nulInPath => "file name contained an unexpected NUL byte"
  | other reason => reason

/-- A file that cannot be read as text. -/
structure FileError where
  path : Path
  problem : FileProblem
  deriving DecidableEq, Repr

/-- What a file error says. -/
def FileError.message (e : FileError) : String :=
  "I/O error at " ++ e.path.text ++ ": " ++ e.problem.message

end DeployConfig
