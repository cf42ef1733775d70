/-
  Snapshots as text.
-/
import DeployConfig.Extension.Snapshot
import DeployConfig.Json.Printer
import DeployConfig.Toml.Printer
import DeployConfig.Yaml.Printer

namespace DeployConfig

/-- The formats in which a snapshot is written. -/
inductive OutputFormat where
  | json
  | yaml
  | toml
  deriving DecidableEq, Repr

namespace OutputFormat

/-- The name of a format. -/
def name : OutputFormat → String
  | json => "json"
  | yaml => "yaml"
  | toml => "toml"

/-- The format of a name. -/
def ofName? (text : String) : Option OutputFormat :=
  [json, yaml, toml].find? fun format => format.name == text

/-- The text of fields in a format. -/
def write : OutputFormat → Fields → String
  | json => Json.ofFields
  | yaml => Yaml.ofFields
  | toml => Toml.ofFields

end OutputFormat

/-- A text whose last line ends. -/
def endedWithNewline (text : String) : String :=
  if text.toList.getLast? == some '\n' then text else text ++ "\n"

/-- The text of a snapshot, whose last line ends in every format. -/
def Snapshot.render (s : Snapshot) (format : OutputFormat) : String :=
  endedWithNewline (format.write s.fields)

end DeployConfig
