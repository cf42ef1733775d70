import DeployConfig.Binding.Error
import DeployConfig.Binding.Field
import DeployConfig.Binding.Repeatable
import DeployConfig.Binding.Slot
import DeployConfig.Binding.Writable
import DeployConfig.CommandLine.Arguments
import DeployConfig.CommandLine.Host
import DeployConfig.CommandLine.Parameter
import DeployConfig.CommandLine.Report
import DeployConfig.CommandLine.Surroundings
import DeployConfig.Config.Access
import DeployConfig.Config.Image
import DeployConfig.Config.Machine
import DeployConfig.Config.Mapping
import DeployConfig.Config.Processors
import DeployConfig.Config.RegistryAuth
import DeployConfig.Config.Resources
import DeployConfig.Documents.Error
import DeployConfig.Documents.Load
import DeployConfig.Enumeration
import DeployConfig.Extension.Basic
import DeployConfig.Extension.Declarations
import DeployConfig.Extension.Load
import DeployConfig.Extension.Render
import DeployConfig.Extension.Snapshot
import DeployConfig.Failure
import DeployConfig.Files.Error
import DeployConfig.Files.State
import DeployConfig.Json.Printer
import DeployConfig.Main
import DeployConfig.Number.Binary64
import DeployConfig.Number.FixedWidth
import DeployConfig.Number.Shortest
import DeployConfig.OrderedMap
import DeployConfig.Project.Layout
import DeployConfig.Project.Path
import DeployConfig.Properties.Store
import DeployConfig.Properties.Text
import DeployConfig.Settings.Accessor
import DeployConfig.Settings.Catalog
import DeployConfig.Settings.Declared
import DeployConfig.Settings.Resolve
import DeployConfig.Settings.Setting
import DeployConfig.Text.Blank
import DeployConfig.Text.Case
import DeployConfig.Text.CaseTable
import DeployConfig.Text.Integer
import DeployConfig.Text.Lines
import DeployConfig.Text.Separated
import DeployConfig.Toml.DateTime
import DeployConfig.Toml.Item
import DeployConfig.Toml.Printer
import DeployConfig.Toml.Reader
import DeployConfig.Toml.Scalar
import DeployConfig.Toml.Token
import DeployConfig.Value
import DeployConfig.Yaml.Character
import DeployConfig.Yaml.Document
import DeployConfig.Yaml.Node
import DeployConfig.Yaml.Printer
import DeployConfig.Yaml.Scalar
import DeployConfig.Yaml.ScalarStyle
import DeployConfig.Yaml.ScalarText
import DeployConfig.Yaml.Token
import DeployConfig.Yaml.Tree
import DeployConfig.Proofs.Steps
import DeployConfig.Proofs.Binding.Codec
import DeployConfig.Proofs.Binding.RoundTrip
import DeployConfig.Proofs.Config.RoundTrip
import DeployConfig.Proofs.Settings.Assignment
import DeployConfig.Proofs.Settings.RoundTrip
import DeployConfig.Proofs.Binding.RepeatableRun
import DeployConfig.Proofs.Extension.Assignment
import DeployConfig.Proofs.Extension.Resolution
import DeployConfig.Proofs.Extension.Snapshot
import DeployConfig.Proofs.Extension.Fields
import DeployConfig.Proofs.Extension.FixedPoint
import DeployConfig.Proofs.Extension.Catalog
import DeployConfig.Proofs.Binding.Forms
import DeployConfig.Proofs.Binding.Uniform
import DeployConfig.Proofs.Extension.Application
import DeployConfig.Proofs.Extension.Independence
import DeployConfig.Proofs.Extension.Direct
import DeployConfig.Proofs.Extension.Rejection
import DeployConfig.Proofs.Properties.Layers
import DeployConfig.Proofs.CommandLine.Source
import DeployConfig.Proofs.CommandLine.BlankEntry
import DeployConfig.Proofs.Properties.Written
import DeployConfig.Proofs.Properties.Escaped
import DeployConfig.Proofs.Properties.Stored
import DeployConfig.Proofs.CommandLine.Precedence
import DeployConfig.Proofs.Documents.SameContent
import DeployConfig.Proofs.CommandLine.Loading
import DeployConfig.Proofs.CommandLine.Outcome
import DeployConfig.Proofs.Extension.Malformed
import DeployConfig.Proofs.Documents.Conversion
import DeployConfig.Proofs.Number.Whole
import DeployConfig.Proofs.Documents.Integers
import DeployConfig.Proofs.Extension.Agreement
import DeployConfig.Proofs.Extension.Paths
import DeployConfig.Proofs.Properties.LogicalLines
import DeployConfig.Proofs.Properties.Numbered
import DeployConfig.Proofs.Binding.NestedLists
import DeployConfig.Proofs.Text.Bytes
import DeployConfig.Proofs.Properties.StoreRun
import DeployConfig.Proofs.Properties.Joined
