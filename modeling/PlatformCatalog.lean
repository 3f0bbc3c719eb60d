import PlatformCatalog.Build.BuildError
import PlatformCatalog.Build.Logged
import PlatformCatalog.Build.Place
import PlatformCatalog.Build.Publication
import PlatformCatalog.CommandLine.Help
import PlatformCatalog.CommandLine.Invocation
import PlatformCatalog.CommandLine.Parse
import PlatformCatalog.CommandLine.Scope
import PlatformCatalog.Coordinate
import PlatformCatalog.DependencySet
import PlatformCatalog.Disk.AtomicWrite
import PlatformCatalog.Disk.Disk
import PlatformCatalog.Disk.FileView
import PlatformCatalog.Disk.IoFault
import PlatformCatalog.Disk.Workspace
import PlatformCatalog.Failure
import PlatformCatalog.Json.Printer
import PlatformCatalog.Json.Reader
import PlatformCatalog.Log
import PlatformCatalog.LogFilter
import PlatformCatalog.LogFilter.Directive
import PlatformCatalog.LogFilter.Pattern
import PlatformCatalog.Main
import PlatformCatalog.Manifest
import PlatformCatalog.Number.Binary64
import PlatformCatalog.Path
import PlatformCatalog.Platform
import PlatformCatalog.Proofs.Build.Appending
import PlatformCatalog.Proofs.Build.Contents
import PlatformCatalog.Proofs.Build.Entry
import PlatformCatalog.Proofs.Build.FirstFault
import PlatformCatalog.Proofs.Build.Policies
import PlatformCatalog.Proofs.Build.Reordering
import PlatformCatalog.Proofs.Build.Result
import PlatformCatalog.Proofs.Build.SpelledOut
import PlatformCatalog.Proofs.Build.Trace
import PlatformCatalog.Proofs.CommandLine.Options
import PlatformCatalog.Proofs.CommandLine.Phrasing
import PlatformCatalog.Proofs.Coordinate
import PlatformCatalog.Proofs.Coordinate.Grammar
import PlatformCatalog.Proofs.DependencySet
import PlatformCatalog.Proofs.DependencySet.FirstDefect
import PlatformCatalog.Proofs.Disk.Absolute
import PlatformCatalog.Proofs.Disk.AllOrNothing
import PlatformCatalog.Proofs.Disk.AtomicWrite
import PlatformCatalog.Proofs.Disk.Directories
import PlatformCatalog.Proofs.Disk.Effect
import PlatformCatalog.Proofs.Disk.Interleaving
import PlatformCatalog.Proofs.Disk.Workspace
import PlatformCatalog.Proofs.Documents
import PlatformCatalog.Proofs.Json.RoundTrip
import PlatformCatalog.Proofs.Logged
import PlatformCatalog.Proofs.Path
import PlatformCatalog.Proofs.Path.Ascent
import PlatformCatalog.Proofs.Platform.Agreement
import PlatformCatalog.Proofs.Platform.Export
import PlatformCatalog.Proofs.Platform.Load
import PlatformCatalog.Proofs.Platform.Report
import PlatformCatalog.Proofs.Platform.Table
import PlatformCatalog.Proofs.Reference
import PlatformCatalog.Proofs.Reference.Concatenation
import PlatformCatalog.Proofs.Reference.Offsets
import PlatformCatalog.Proofs.Resolution
import PlatformCatalog.Proofs.Resolution.Inlined
import PlatformCatalog.Proofs.Resolution.Referenced
import PlatformCatalog.Proofs.Run.Discovery
import PlatformCatalog.Proofs.Run.Footprint
import PlatformCatalog.Proofs.Run.SettingsFile
import PlatformCatalog.Proofs.Run.WorkingDirectory
import PlatformCatalog.Proofs.Schema
import PlatformCatalog.Proofs.Settings
import PlatformCatalog.Proofs.Text.Utf8
import PlatformCatalog.Proofs.VersionTable
import PlatformCatalog.Reference
import PlatformCatalog.Run
import PlatformCatalog.Schema
import PlatformCatalog.Settings
import PlatformCatalog.Text.Alphanumeric
import PlatformCatalog.Text.Hidden
import PlatformCatalog.Text.Quoted
import PlatformCatalog.Text.Ranges
import PlatformCatalog.Text.Reader
import PlatformCatalog.Text.Terminal
import PlatformCatalog.Text.Utf8
import PlatformCatalog.Toml.Blank
import PlatformCatalog.Toml.DateTime
import PlatformCatalog.Toml.Document
import PlatformCatalog.Toml.Number
import PlatformCatalog.Toml.Outline
import PlatformCatalog.Toml.Quotation
import PlatformCatalog.Toml.Record
import PlatformCatalog.Value
import PlatformCatalog.VersionTable
import PlatformCatalog.Host
import PlatformCatalog.Operation
import PlatformCatalog.Simulation
import PlatformCatalog.Proofs.Simulation
import PlatformCatalog.Proofs.Run.Prepared
