/-
  Loading configuration documents.

  The format follows from the extension of the path, before the file is read.
-/
import DeployConfig.Documents.Error
import DeployConfig.Files.State
import DeployConfig.Toml.Reader
import DeployConfig.Yaml.Document
import DeployConfig.Text.Blank

namespace DeployConfig

/-- The block that a text writes in a format. -/
def DocumentFormat.read : DocumentFormat → String → Except DocumentProblem Block
  | toml, text =>
    match Toml.read? text with
    | some entries => .ok (Toml.blockOf entries)
    | none => .error (.malformed text)
  | yaml, text =>
    if Text.blank text then .ok []
    else match Yaml.read? text with
      | some tree => tree.toBlock
      | none => .error (.malformed text)

/-- The block of the document at a path. -/
def Files.loadDocument (files : Files) (path : Path) : Except DocumentError Block := do
  let format ← DocumentFormat.ofPath path
  let text ← (files.readText path).mapError DocumentError.file
  (format.read text).mapError (DocumentError.invalid format)

end DeployConfig
