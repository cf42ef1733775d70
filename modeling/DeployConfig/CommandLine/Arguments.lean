/-
  The arguments of the program.

  There are three commands.  Two of them work on a configuration and say where it comes from: its
  base directory, its document, and the sources of its properties.
-/
import DeployConfig.Binding.Slot
import DeployConfig.CommandLine.Parameter
import DeployConfig.Extension.Render
import DeployConfig.Text.Blank

namespace DeployConfig

/-- Where a configuration and its properties come from. -/
structure Source where
  base : Option Path := none
  config : Option Path := none
  /-- Properties given one by one. -/
  defines : List (String × String) := []
  /-- Files of properties, of which a later one wins. -/
  properties : List Path := []
  /-- Whether environment variables set properties. -/
  fromEnvironment : Bool := false
  deriving DecidableEq, Repr

/-- The commands. -/
inductive Command where
  /-- Write the snapshot of a configuration. -/
  | resolve (source : Source) (format : OutputFormat)
  /-- List the settings. -/
  | keys (json : Bool)
  /-- Name the manifest to apply. -/
  | manifest (source : Source) (openshift : Bool)
  deriving DecidableEq, Repr

/-- What the arguments ask for. -/
structure Arguments where
  verbose : Bool := false
  command : Option Command := none
  deriving DecidableEq, Repr

namespace Arguments

/-! ## Parameters -/

/-- What parameters have been given. -/
structure Given where
  verbose : Bool := false
  json : Bool := false
  openshift : Bool := false
  format : Option OutputFormat := none
  source : Source := {}

/-- A flag, which may be given once. -/
def flag (long : String) (short : Option Char) (part : Part Given Bool) : Parameter Given :=
  ⟨long, short, .flag fun g => if part.get g then .error .usage else .ok (part.set g true)⟩

/-- A value, which may be given once. -/
def single {α : Type} (long : String) (short : Char) (read : String → Option α)
    (part : Part Given (Option α)) : Parameter Given :=
  ⟨long, some short, .value fun text g =>
    match part.get g, read text with
    | none, some a => .ok (part.set g (some a))
    | _, _ => .error .usage⟩

/-- A value, which may be given many times. -/
def repeated {α : Type} (long : String) (short : Char) (read : String → Option α)
    (part : Part Given (List α)) : Parameter Given :=
  ⟨long, some short, .value fun text g =>
    match read text with
    | some a => .ok (part.set g (part.get g ++ [a]))
    | none => .error .usage⟩

/-- A path, which may not be empty. -/
def path? (text : String) : Option Path := if text.isEmpty then none else some ⟨text⟩

/-- A property and its value: what stands in front of the first equals sign, without the white space
    around it, and what stands behind. -/
def define? (text : String) : Option (String × String) :=
  match Text.splitAtFirst '=' text.toList with
  | (key, some value) =>
    let key := Text.trim key
    if key.isEmpty then none else some (String.ofList key, String.ofList value)
  | (_, none) => none

/-- The flag that every command has. -/
def verboseFlag : Parameter Given :=
  flag "verbose" (some 'v') (.mk (·.verbose) fun g b => { g with verbose := b })

/-- The request for help. -/
def helpFlag : Parameter Given := ⟨"help", some 'h', .flag fun _ => .error .help⟩

/-- The request for the version. -/
def versionFlag : Parameter Given := ⟨"version", some 'V', .flag fun _ => .error .version⟩

/-- The parameters that stand in front of a command. -/
def topParameters : List (Parameter Given) := [verboseFlag, helpFlag, versionFlag]

/-- The parameters that every command has. -/
def sharedParameters : List (Parameter Given) := [verboseFlag, helpFlag]

/-- The parameters that say where a configuration comes from. -/
def sourceParameters : List (Parameter Given) := [
  single "base" 'b' path?
    (.mk (·.source.base) fun g p => { g with source := { g.source with base := p } }),
  single "config" 'c' path?
    (.mk (·.source.config) fun g p => { g with source := { g.source with config := p } }),
  repeated "define" 'D' define?
    (.mk (·.source.defines) fun g d => { g with source := { g.source with defines := d } }),
  repeated "properties" 'p' path?
    (.mk (·.source.properties) fun g p => { g with source := { g.source with properties := p } }),
  flag "env" none
    (.mk (·.source.fromEnvironment) fun g b =>
      { g with source := { g.source with fromEnvironment := b } })]

/-- The format of a snapshot. -/
def formatParameter : Parameter Given :=
  single "format" 'f' OutputFormat.ofName? (.mk (·.format) fun g f => { g with format := f })

/-- The flag for settings as JSON. -/
def jsonFlag : Parameter Given := flag "json" none (.mk (·.json) fun g b => { g with json := b })

/-- The flag for a cluster of the other flavour. -/
def openshiftFlag : Parameter Given :=
  flag "openshift" none (.mk (·.openshift) fun g b => { g with openshift := b })

/-! ## Commands -/

/-- The environment variable that names the base directory if no argument does. -/
def baseVariable : String := "KUBEXT_BASE_DIR"

/-- The source that is given, with the base directory of the environment unless there is another;
    it may not be empty either. -/
def completedSource (environmentBase : Option String) (g : Given) : Except Interruption Source :=
  match g.source.base, environmentBase with
  | none, some text =>
    match path? text with
    | some base => .ok { g.source with base := some base }
    | none => .error .usage
  | _, _ => .ok g.source

/-- What is given for a command; no other word may stand among its parameters. -/
def readCommand (parameters : List (Parameter Given)) (arguments : List String) :
    Except Interruption Given := do
  let (given, rest) ← Parameter.readAll (sharedParameters ++ parameters) {} arguments
  if rest.isEmpty then return given else .error .usage

/-- The names of the commands. -/
def commandNames : List String := ["resolve", "keys", "manifest", "help"]

/-- What the arguments behind the name of a command ask for. -/
def ofCommand (environmentBase : Option String) (name : String) (arguments : List String) :
    Except Interruption Arguments := do
  match name with
  | "resolve" =>
    let g ← readCommand (sourceParameters ++ [formatParameter]) arguments
    let source ← completedSource environmentBase g
    return ⟨g.verbose, some (.resolve source (g.format.getD .json))⟩
  | "keys" =>
    let g ← readCommand [jsonFlag] arguments
    return ⟨g.verbose, some (.keys g.json)⟩
  | "manifest" =>
    let g ← readCommand (sourceParameters ++ [openshiftFlag]) arguments
    let source ← completedSource environmentBase g
    return ⟨g.verbose, some (.manifest source g.openshift)⟩
  | "help" =>
    if arguments.length ≤ 1 && arguments.all commandNames.contains then .error .help
    else .error .usage
  | _ => .error .usage

/-- What the arguments ask for, given the base directory that the environment names. -/
def parse (environmentBase : Option String) (arguments : List String) :
    Except Interruption Arguments := do
  let (top, rest) ← Parameter.readAll topParameters {} arguments
  match rest with
  | [] => return ⟨top.verbose, none⟩
  | name :: rest =>
    let read ← ofCommand environmentBase name rest
    return { read with verbose := top.verbose || read.verbose }

end Arguments

end DeployConfig
