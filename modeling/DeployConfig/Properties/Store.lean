/-
  Property sources.

  Properties are texts by key.  They come from properties files, from environment variables and
  from the command line; layers are laid over one another, and in each layer the last value of a
  key stays.
-/
import DeployConfig.OrderedMap
import DeployConfig.Properties.Text
import DeployConfig.Settings.Catalog

namespace DeployConfig

/-- Property values by key. -/
abbrev Properties := OrderedMap String

namespace Properties

/-- The properties that a text sets. -/
def ofText (text : String) : Properties := OrderedMap.ofList (parse text)

/-- The properties laid over others; their values stay. -/
def merge (base overlay : Properties) : Properties := base.insertAll overlay.toList

/-- The property key that an environment variable sets, if it sets one. -/
def keyOfVariable? (name : String) : Option String :=
  (catalog.find? fun row => environmentName row.key == name).map CatalogRow.key

/-- The properties that environment variables set. -/
def ofEnvironment (environment : List (String × String)) : Properties :=
  OrderedMap.ofList (environment.filterMap fun v => (keyOfVariable? v.1).map fun key => (key, v.2))

end Properties

end DeployConfig
