/-
  Document formats, and why a document cannot be loaded.
-/
import DeployConfig.Files.Error
import DeployConfig.Text.Case

namespace DeployConfig

/-- The formats in which configuration documents are written. -/
inductive DocumentFormat where
  | toml
  | yaml
  deriving DecidableEq, Repr

/-- What a format is called. -/
def DocumentFormat.name : DocumentFormat → String
  | toml => "TOML"
  | yaml => "YAML"

/-- What the parser of a format says about a text that breaks its grammar. -/
abbrev ParserMessages := DocumentFormat → String → String

/-- Why a text is no configuration document of its format. -/
inductive DocumentProblem where
  /-- The text breaks the grammar of the format. -/
  | malformed (text : String)
  /-- The document is something else than a mapping. -/
  | rootNotMapping (found : String)
  /-- A key of a mapping is something else than a scalar. -/
  | keyNotScalar
  deriving DecidableEq, Repr

/-- What is said about the problem; about malformed text the parser has the word. -/
def DocumentProblem.detail (messages : String → String) : DocumentProblem → String
  | malformed text => messages text
  | rootNotMapping found => "document root must be a mapping, found " ++ found
  | keyNotScalar => "mapping keys must be scalars"

/-- Why a document cannot be loaded. -/
inductive DocumentError where
  | unsupportedFormat (extension : String)
  | file (error : FileError)
  | invalid (format : DocumentFormat) (problem : DocumentProblem)
  deriving DecidableEq, Repr

/-- What a document error says. -/
def DocumentError.message (messages : ParserMessages) : DocumentError → String
  | unsupportedFormat extension => "Unsupported document format: " ++ extension
  | file error => "Filesystem error: " ++ error.message
  | invalid format problem =>
    "Failed to parse " ++ format.name ++ " document: " ++ problem.detail (messages format)

/-- The format of a document by its path's extension, in any case of letters. -/
def DocumentFormat.ofPath (path : Path) : Except DocumentError DocumentFormat :=
  let extension := Text.lower (path.extension?.getD "")
  if extension == "toml" then .ok .toml
  else if extension == "yaml" || extension == "yml" then .ok .yaml
  else .error (.unsupportedFormat extension)

end DeployConfig
