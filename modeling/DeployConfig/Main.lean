/-
  The program.

  It looks at the files that its arguments can lead to, and writes the report.
-/
import DeployConfig.CommandLine.Report

namespace DeployConfig

/-! ## Files -/

/-- Why something is not there for the program, as far as it matters which way. -/
def FileProblem.ofError : IO.Error → FileProblem
  | .noFileOrDirectory .. => .notFound
  | .inappropriateType _ code _ => if code == 21 then .isDirectory else .notADirectory
  | e => .other (toString e)

/-- What stands at a path of the file system. -/
def lookAt (path : Path) : IO FileState := do
  let place := (← IO.currentDir) / path.text
  let isFile := match ← place.metadata.toBaseIO with
    | .ok found => found.type == .file
    | .error _ => false
  let content := match ← (IO.FS.readBinFile path.text).toBaseIO with
    | .ok bytes => match String.fromUTF8? bytes with
      | some text => .ok text
      | none => .error .notUtf8
    | .error e => .error (.ofError e)
  return ⟨isFile, content⟩

/-- The files that the arguments can lead to. -/
def Arguments.paths (arguments : Arguments) (workingDirectory : Path) : List Path :=
  match arguments.command with
  | some (.resolve source _) => source.paths workingDirectory
  | some (.manifest source _) => source.paths workingDirectory
  | _ => []

/-! ## Environment -/

/-- The text of bytes that stand as characters. -/
def textOfBytes? (bytes : List Char) : Option String :=
  String.fromUTF8? ⟨(bytes.map fun c => c.toNat.toUInt8).toArray⟩

/-- The variable of an entry of the environment: its name goes up to the first equals sign that is
    not its first byte.  An entry without one is no variable. -/
def Variable.ofEntry? : List Char → Option Variable
  | [] => none
  | first :: rest =>
    match Text.splitAtFirst '=' rest with
    | (_, none) => none
    | (name, some value) =>
      match textOfBytes? (first :: name), textOfBytes? value with
      | some name, some value => some (.text name value)
      | _, _ => some (.foreign "an environment variable is no text\n")

/-- The environment variables of the program, in their order. -/
def readVariables : IO (List Variable) := do
  let bytes ← IO.FS.readBinFile "/proc/self/environ"
  let entries := Text.splitAt '\x00' (bytes.toList.map fun byte => Char.ofNat byte.toNat)
  return entries.filterMap Variable.ofEntry?

/-! ## The run -/

/-- What the system gives a run with the given arguments. -/
def host (arguments : List String) : IO Host := do
  let workingDirectory ← match ← IO.currentDir.toBaseIO with
    | .ok here => pure (.ok ⟨here.toString⟩)
    | .error e => pure (.error (.ofError e))
  let messages format _ := "no " ++ format.name
  let bare : Host := ⟨fun _ => .absent, workingDirectory, ← readVariables, messages⟩
  let paths := match workingDirectory, Arguments.parse bare.baseDirectory? arguments with
    | .ok here, .ok read => read.paths here
    | _, _ => []
  let states ← paths.mapM fun path => do return (path, ← lookAt path)
  return { bare with files := fun path => (states.lookup path).getD .absent }

end DeployConfig

/-- Runs the program on its arguments. -/
def main (arguments : List String) : IO UInt32 := do
  let report := (← DeployConfig.host arguments).run arguments
  IO.print report.output
  IO.eprint report.errors
  return report.exitCode
