/-
  What a run of the program reports.

  A command that fails writes nothing but its error.
-/
import DeployConfig.CommandLine.Host

namespace DeployConfig

/-- What a run of the program leaves. -/
structure Report where
  exitCode : UInt32 := 0
  output : String := ""
  errors : String := ""
  /-- Whether a trace is written in between the errors.  Its lines carry the time of the run, so
      that their text is not described. -/
  traced : Bool := false
  deriving DecidableEq, Repr

namespace Report

/-- Lines of text. -/
def linesText (lines : List String) : String := String.join (lines.map (· ++ "\n"))

/-- The report of a run that ends early. -/
def ofStop (messages : ParserMessages) : Stop → Report
  | .failure failure =>
    { exitCode := 1, errors := linesText ["error: " ++ failure.message messages] }
  | .panic complaint => { exitCode := 101, errors := complaint }

/-- The report of a run that may end early. -/
def ofExcept (messages : ParserMessages) : Except Stop Report → Report
  | .ok report => report
  | .error stop => ofStop messages stop

/-! ## Fixed texts -/

/-- What is said if there is no command. -/
def greeting : List String :=
  ["kubext Kubernetes build configuration", "", "Run kubext --help for available commands."]

/-- The name and version of the program. -/
def versionLine : String := "kubext 0.1.0"

/-- How the program is used. -/
def usage : List String := [
  "kubext - Inspect the Kubernetes build extension configuration",
  "",
  "Usage: kubext [OPTIONS] [COMMAND]",
  "",
  "Commands:",
  "  resolve   Print every setting after property, declared and default resolution",
  "  keys      List every setting with its property key, kind and default",
  "  manifest  Print the manifest the apply step would use",
  "  help      Print this message",
  "",
  "Options:",
  "  -v, --verbose             Enable verbose output",
  "  -h, --help                Print help",
  "  -V, --version             Print version",
  "",
  "Options of resolve and manifest:",
  "  -b, --base <BASE>         Project base directory",
  "  -c, --config <CONFIG>     Configuration document (TOML or YAML)",
  "  -D, --define <KEY=VALUE>  Property override (repeatable)",
  "  -p, --properties <FILE>   File of properties (repeatable, later files win)",
  "      --env                 Read settings from JKUBE_* environment variables",
  "  -f, --format <FORMAT>     Output format of resolve: json, yaml or toml",
  "      --openshift           Behave as if connected to an OpenShift cluster (manifest)",
  "",
  "Options of keys:",
  "      --json                Output as JSON"]

/-! ## Settings -/

/-- A text with spaces behind it up to a width. -/
def padded (width : Nat) (text : String) : String :=
  text ++ String.ofList (List.replicate (width - text.length) ' ')

/-- The line of a row of the catalog. -/
def rowLine (row : CatalogRow) : String :=
  "  " ++ padded 42 row.key ++ " " ++ padded 8 row.kind.name ++ " " ++ row.fallback

/-- All settings as a table. -/
def settingsTable : List String :=
  ["Settings", ""] ++ catalog.map rowLine
    ++ ["", "Total: " ++ Text.decimal catalog.length ++ " settings."]

/-- A row of the catalog as fields; one without a default has none there either. -/
def rowFields (row : CatalogRow) : Fields := [
  ("name", some (.string row.name)),
  ("key", some (.string row.key)),
  ("kind", some (.string row.kind.name)),
  ("default", if row.fallback == "-" then none else some (.string row.fallback))]

/-- All settings as JSON. -/
def settingsJson : String :=
  Json.ofLines (Json.array (catalog.map fun row => Json.ofFieldLines (rowFields row)))

/-! ## Commands -/

/-- The report of the snapshot of a configuration. -/
def resolve (source : Source) (format : OutputFormat) (h : Host) : Except Stop Report := do
  let snapshot ← h.settings source
  return { output := snapshot.render format }

/-- The report of the manifest to apply. -/
def manifest (source : Source) (openshift : Bool) (h : Host) : Except Stop Report := do
  let e ← h.extension source
  let (path, warnings) := e.manifest (if openshift then .openshift else .kubernetes)
  return { output := linesText [path.text], errors := linesText (warnings.map ("warning: " ++ ·)) }

/-- The report of a command. -/
def ofCommand (h : Host) : Command → Report
  | .resolve source format => ofExcept h.messages (resolve source format h)
  | .keys json => { output := linesText (if json then [settingsJson] else settingsTable) }
  | .manifest source openshift => ofExcept h.messages (manifest source openshift h)

/-- The report of a command line that is not read to its end. -/
def ofInterruption : Interruption → Report
  | .usage => { exitCode := 2, errors := linesText ["error: the arguments are not understood", "",
      "For more information, try '--help'."] }
  | .help => { output := linesText usage }
  | .version => { output := linesText [versionLine] }

end Report

/-- The report of a run of the program. -/
def Host.run (h : Host) (arguments : List String) : Report :=
  match Arguments.parse h.baseDirectory? arguments with
  | .error interruption => .ofInterruption interruption
  | .ok read =>
    let report : Report := match read.command with
      | none => { output := Report.linesText Report.greeting }
      | some command => Report.ofCommand h command
    { report with traced := read.verbose }

end DeployConfig
