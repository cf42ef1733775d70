/-
  Extensions from documents.

  A document holds the declarations in one of its blocks.  Loading fails as a whole: unlike
  applying a block, it leaves no extension behind when an assignment fails.
-/
import DeployConfig.Documents.Load
import DeployConfig.Extension.Basic
import DeployConfig.Failure

namespace DeployConfig

namespace Extension

/-- The block of declarations in a document: the last value that is assigned to its name. -/
def declarationBlock (document : Block) : Except Failure Block :=
  match document.get? Declarations.blockName with
  | none => .error (.missingBlock Declarations.blockName)
  | some value =>
    (Field.block ⟨"document", Declarations.blockName, value⟩).mapError Failure.binding

/-- The extension of a project that a document declares. -/
def ofDocument (project : Project) (document : Block) : Except Failure Extension := do
  let block ← declarationBlock document
  ((Extension.mk project {}).apply block).toExcept.mapError Failure.binding

/-- The extension of a project that the document at a path declares. -/
def load (files : Files) (project : Project) (path : Path) : Except Failure Extension := do
  let document ← (files.loadDocument path).mapError Failure.document
  ofDocument project document

end Extension

end DeployConfig
