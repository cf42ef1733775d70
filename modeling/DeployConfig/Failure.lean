/-
  Everything that can go wrong, as one type.
-/
import DeployConfig.Binding.Error
import DeployConfig.Documents.Error
import DeployConfig.Settings.Resolve

namespace DeployConfig

/-- Why loading or resolving a configuration fails. -/
inductive Failure where
  | binding (error : BindError)
  | property (error : PropertyError)
  | unknownVariant (error : UnknownVariant)
  | document (error : DocumentError)
  | file (error : FileError)
  /-- The document has no block of the name that holds the declarations. -/
  | missingBlock (name : String)
  /-- The project base is no absolute path. -/
  | relativeBase (path : Path)
  /-- The configuration file that was named does not exist. -/
  | configurationNotFound (path : Path)
  /-- The system does not tell the working directory. -/
  | noWorkingDirectory (problem : FileProblem)
  deriving DecidableEq, Repr

/-- What a failure says. -/
def Failure.message (messages : ParserMessages) : Failure → String
  | binding error => error.message
  | property error => error.message
  | unknownVariant error => error.message
  | document error => error.message messages
  | file error => error.message
  | missingBlock name => "Document has no '" ++ name ++ "' block"
  | relativeBase path => "Project base directory must be absolute: " ++ path.text
  | configurationNotFound path => "Configuration file not found: " ++ path.text
  | noWorkingDirectory problem => problem.message

end DeployConfig
