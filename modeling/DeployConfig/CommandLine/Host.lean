/-
  What the system gives a run of the program.

  Not all of it need be usable: the system may not tell the working directory, and a variable need
  not be text.  Either ends the run, the first one before anything else is done, the second one
  where the environment is read.
-/
import DeployConfig.CommandLine.Surroundings

namespace DeployConfig

/-- An environment variable. -/
inductive Variable where
  | text (name value : String)
  /-- One whose name or value is no text, with what is said about it when it is read.  Paths are
      texts, so the base directory is named by no such variable. -/
  | foreign (complaint : String)
  deriving DecidableEq, Repr

/-- What the system gives a run of the program. -/
structure Host where
  files : Files
  /-- The working directory, or why it cannot be told. -/
  workingDirectory : Except FileProblem Path
  /-- The environment variables, in their order. -/
  environ : List Variable
  /-- What the parsers of documents say. -/
  messages : ParserMessages

/-- How a run ends before it has something to report. -/
inductive Stop where
  /-- By an error. -/
  | failure (failure : Failure)
  /-- By breaking off, with a complaint. -/
  | panic (complaint : String)
  deriving DecidableEq, Repr

namespace Host

/-- The variables that are text. -/
def environment (h : Host) : List (String × String) :=
  h.environ.filterMap fun
    | .text name value => some (name, value)
    | .foreign _ => none

/-- What is said about the first variable that is no text, if there is one. -/
def foreign? (h : Host) : Option String :=
  h.environ.findSome? fun
    | .text .. => none
    | .foreign complaint => some complaint

/-- The base directory that the environment names: the first variable of that name counts. -/
def baseDirectory? (h : Host) : Option String := h.environment.lookup Arguments.baseVariable

/-- What a source is loaded from in a working directory. -/
def within (h : Host) (workingDirectory : Path) : Surroundings :=
  ⟨h.files, workingDirectory, h.environment⟩

/-- What a source is loaded from.  A source that reads the environment does so once its files of
    properties have been read, and breaks off at a variable that is no text. -/
def surroundings (h : Host) (source : Source) : Except Stop Surroundings := do
  let workingDirectory ← h.workingDirectory.mapError fun problem =>
    Stop.failure (.noWorkingDirectory problem)
  match if source.fromEnvironment then h.foreign? else none with
  | none => return h.within workingDirectory
  | some complaint =>
    let _ ← (source.fileProperties h.files).mapError Stop.failure
    throw (.panic complaint)

/-- The extension that a command works on. -/
def extension (h : Host) (source : Source) : Except Stop Extension := do
  let s ← h.surroundings source
  (source.extension s).mapError Stop.failure

/-- All settings of a source. -/
def settings (h : Host) (source : Source) : Except Stop Snapshot := do
  let s ← h.surroundings source
  (source.settings s).mapError Stop.failure

end Host

end DeployConfig
