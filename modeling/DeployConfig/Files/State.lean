/-
  What a run sees of files.

  Whether a regular file stands at a path and what comes of reading it are two questions: a file
  may be there and not be readable, and what is read may be something else than a file.
-/
import DeployConfig.Files.Error

namespace DeployConfig

/-- What stands at a path. -/
structure FileState where
  /-- Whether it is a regular file. -/
  isFile : Bool
  /-- Its text, or why it cannot be read as text. -/
  content : Except FileProblem String

namespace FileState

/-- Nothing. -/
def absent : FileState := ⟨false, .error .notFound⟩

/-- A regular file with a text, or with bytes that are no text. -/
def file (text : Option String) : FileState where
  isFile := true
  content := match text with
    | some text => .ok text
    | none => .error .notUtf8

end FileState

/-- What stands at each path. -/
abbrev Files := Path → FileState

namespace Files

/-- Whether a path can be given to the system, which takes none with a NUL character. -/
def isNamable (path : Path) : Bool := !path.text.toList.contains '\x00'

/-- Whether a regular file stands at a path. -/
def isFile (files : Files) (path : Path) : Bool := isNamable path && (files path).isFile

/-- The text of a file at a path. -/
def readText (files : Files) (path : Path) : Except FileError String :=
  if isNamable path then (files path).content.mapError fun problem => ⟨path, problem⟩
  else .error ⟨path, .nulInPath⟩

end Files

end DeployConfig
