import ParseRepair.Text.Blank
import ParseRepair.Text.Lines
import ParseRepair.Text.Search
import ParseRepair.Text.Utf8
import ParseRepair.Text.Points
import ParseRepair.Text.Quoted
import ParseRepair.Text.Digits
import ParseRepair.Decimal.Shortest
import ParseRepair.Value.Spelling
import ParseRepair.Json.Reader
import ParseRepair.Json.Printer
import ParseRepair.Diagnostic.Document
import ParseRepair.Diagnostic.Placement
import ParseRepair.Recovery.Pass
import ParseRepair.Files.Tree
import ParseRepair.Toml.Document
import ParseRepair.Config.Loading
import ParseRepair.Logging.Setup
import ParseRepair.Terminal.Console
import ParseRepair.Diff.Unified
import ParseRepair.Diff.Preview
import ParseRepair.Cli.Program
import ParseRepair.Main
import ParseRepair.Proofs.Text.Lines
import ParseRepair.Proofs.Text.Offsets
import ParseRepair.Proofs.Text.Search
import ParseRepair.Proofs.Recovery.Length
import ParseRepair.Proofs.Recovery.Strategy
import ParseRepair.Proofs.Recovery.Line
import ParseRepair.Proofs.Recovery.Repair
import ParseRepair.Proofs.Recovery.Geometry
import ParseRepair.Proofs.Recovery.Drift
import ParseRepair.Proofs.Recovery.Account
import ParseRepair.Proofs.Recovery.Locality
import ParseRepair.Proofs.Text.Digits
import ParseRepair.Proofs.Text.Points
import ParseRepair.Proofs.Diagnostic.Placement
import ParseRepair.Proofs.Diagnostic.Location
import ParseRepair.Proofs.Recovery.Pass
import ParseRepair.Proofs.Recovery.Order
import ParseRepair.Proofs.Recovery.OpenLiteral
import ParseRepair.Proofs.Text.Display
import ParseRepair.Proofs.Diff.Alignment
import ParseRepair.Proofs.Diff.Unified
import ParseRepair.Proofs.Recovery.Visibility
import ParseRepair.Proofs.Text.Utf8
import ParseRepair.Proofs.Value.Fields
import ParseRepair.Proofs.Json.Strings
import ParseRepair.Proofs.Json.Tokens
import ParseRepair.Proofs.Json.Reader
import ParseRepair.Proofs.Json.Printer
import ParseRepair.Proofs.Diagnostic.RoundTrip
import ParseRepair.Proofs.Traced
import ParseRepair.Proofs.Config.Layers
import ParseRepair.Proofs.Config.Table
import ParseRepair.Proofs.Config.Loading
import ParseRepair.Proofs.Config.Search
import ParseRepair.Proofs.Config.Failure
import ParseRepair.Proofs.Cli.Settings
import ParseRepair.Proofs.Recovery.Failure
import ParseRepair.Proofs.Cli.Stages
import ParseRepair.Proofs.Cli.Run
import ParseRepair.Proofs.Cli.Status
import ParseRepair.Proofs.Cli.Printed
import ParseRepair.Proofs.Cli.Step
import ParseRepair.Proofs.Terminal.Strip
import ParseRepair.Proofs.Recovery.FirstMatch
import ParseRepair.Proofs.Recovery.Flagged
import ParseRepair.Proofs.Recovery.Repeated
import ParseRepair.Proofs.Text.Breaks
import ParseRepair.Proofs.Recovery.Reading
import ParseRepair.Proofs.Recovery.Placeholder
import ParseRepair.Proofs.Recovery.Calls
import ParseRepair.Proofs.Diff.Reading
import ParseRepair.Proofs.Diff.Patching
import ParseRepair.Proofs.Terminal.Apart
import ParseRepair.Proofs.Diff.Preview
import ParseRepair.Proofs.Cli.Switches
import ParseRepair.Proofs.Cli.Colors
import ParseRepair.Proofs.Cli.BadSettings
import ParseRepair.Proofs.Json.Ends
import ParseRepair.Proofs.Json.Fuel
import ParseRepair.Proofs.Json.Nesting
import ParseRepair.Proofs.Json.Height
import ParseRepair.Proofs.Json.Breaks
import ParseRepair.Proofs.Diagnostic.Form
import ParseRepair.Proofs.Diagnostic.File
import ParseRepair.Proofs.Diagnostic.Partition
import ParseRepair.Proofs.Diagnostic.FirstPlace
import ParseRepair.Proofs.Logging.Setting
import ParseRepair.Proofs.Cli.LogLevel
import ParseRepair.Proofs.Recovery.Settings
