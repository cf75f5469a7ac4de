import ProtoTree.Command
import ProtoTree.CommandLine.Grammar
import ProtoTree.CommandLine.Nested
import ProtoTree.CommandLine.Request
import ProtoTree.CommandLine.Run
import ProtoTree.CommandLine.Shown
import ProtoTree.CompileError
import ProtoTree.Compiler
import ProtoTree.Config.Basic
import ProtoTree.Config.Shared
import ProtoTree.Config.Validate
import ProtoTree.Document.Basic
import ProtoTree.Document.Json
import ProtoTree.Document.Yaml
import ProtoTree.Document.YamlScalar
import ProtoTree.Environment
import ProtoTree.Executor
import ProtoTree.FileSystem.Basic
import ProtoTree.FileSystem.Disk
import ProtoTree.FileSystem.Memory
import ProtoTree.ImportGraph
import ProtoTree.Inclusion
import ProtoTree.Log.Record
import ProtoTree.Log.Setup
import ProtoTree.Main
import ProtoTree.Path.Basic
import ProtoTree.Path.Normal
import ProtoTree.Plan
import ProtoTree.Plugin
import ProtoTree.Process
import ProtoTree.Progress
import ProtoTree.Proofs.ArgumentReading
import ProtoTree.Proofs.Arguments
import ProtoTree.Proofs.Ascent
import ProtoTree.Proofs.Config.Checks
import ProtoTree.Proofs.Config.LastWrite
import ProtoTree.Proofs.Config.SharedHistory
import ProtoTree.Proofs.Config.SharedSteps
import ProtoTree.Proofs.Containment
import ProtoTree.Proofs.Coverage
import ProtoTree.Proofs.Diagnostics
import ProtoTree.Proofs.Discipline
import ProtoTree.Proofs.Discovery
import ProtoTree.Proofs.Distinct
import ProtoTree.Proofs.DryRun
import ProtoTree.Proofs.ExactDiscovery
import ProtoTree.Proofs.FileSystem.Directories
import ProtoTree.Proofs.FileSystem.Disk
import ProtoTree.Proofs.FileSystem.History
import ProtoTree.Proofs.FileSystem.Listing
import ProtoTree.Proofs.FileSystem.Memory
import ProtoTree.Proofs.FileSystem.NestedDirectories
import ProtoTree.Proofs.GeneratorOptions
import ProtoTree.Proofs.ImportGraph.Building
import ProtoTree.Proofs.ImportGraph.Edges
import ProtoTree.Proofs.ImportGraph.FirstMatch
import ProtoTree.Proofs.ImportGraph.InDegree
import ProtoTree.Proofs.ImportGraph.Loops
import ProtoTree.Proofs.Importers
import ProtoTree.Proofs.Inclusion
import ProtoTree.Proofs.NeededAncestors
import ProtoTree.Proofs.OutputArguments
import ProtoTree.Proofs.Path.Ancestors
import ProtoTree.Proofs.Path.Canonical
import ProtoTree.Proofs.Path.Components
import ProtoTree.Proofs.Path.Following
import ProtoTree.Proofs.Path.Keys
import ProtoTree.Proofs.Path.Normalization
import ProtoTree.Proofs.Path.Order
import ProtoTree.Proofs.Path.Relative
import ProtoTree.Proofs.Path.Repaired
import ProtoTree.Proofs.Plan
import ProtoTree.Proofs.Process
import ProtoTree.Proofs.ProgramPath
import ProtoTree.Proofs.Reordering
import ProtoTree.Proofs.Respelling
import ProtoTree.Proofs.RootSearch
import ProtoTree.Proofs.Run
import ProtoTree.Proofs.SearchRoots
import ProtoTree.Proofs.Source.Comments
import ProtoTree.Proofs.Source.Composition
import ProtoTree.Proofs.Source.Grammar
import ProtoTree.Proofs.Source.Lines
import ProtoTree.Proofs.Source.WrittenImports
import ProtoTree.Proofs.SourceSet
import ProtoTree.Proofs.Text.Case
import ProtoTree.Proofs.Text.Repaired
import ProtoTree.Proofs.Text.Utf8
import ProtoTree.Proofs.Toolchain
import ProtoTree.Report
import ProtoTree.SearchRoots
import ProtoTree.Shell.Arithmetic
import ProtoTree.Shell.Builtin
import ProtoTree.Shell.Builtin.Basic
import ProtoTree.Shell.Builtin.Directory
import ProtoTree.Shell.Builtin.Jobs
import ProtoTree.Shell.Builtin.Limits
import ProtoTree.Shell.Builtin.Meaning
import ProtoTree.Shell.Builtin.Variables
import ProtoTree.Shell.Condition
import ProtoTree.Shell.Expansion
import ProtoTree.Shell.Floating
import ProtoTree.Shell.Flow
import ProtoTree.Shell.Grammar
import ProtoTree.Shell.Name
import ProtoTree.Shell.Pattern
import ProtoTree.Shell.Print
import ProtoTree.Shell.Program
import ProtoTree.Shell.Prompt
import ProtoTree.Shell.Reader
import ProtoTree.Shell.Redirect
import ProtoTree.Shell.Regex
import ProtoTree.Shell.Run
import ProtoTree.Shell.Script
import ProtoTree.Shell.Start
import ProtoTree.Shell.State
import ProtoTree.Shell.Token
import ProtoTree.Shell.Utility
import ProtoTree.Shell.Utility.Basic
import ProtoTree.Shell.Utility.Batches
import ProtoTree.Shell.Utility.Characters
import ProtoTree.Shell.Utility.Copying
import ProtoTree.Shell.Utility.Dump
import ProtoTree.Shell.Utility.Edit
import ProtoTree.Shell.Utility.EditScript
import ProtoTree.Shell.Utility.Evaluation
import ProtoTree.Shell.Utility.Files
import ProtoTree.Shell.Utility.Listing
import ProtoTree.Shell.Utility.Mode
import ProtoTree.Shell.Utility.Order
import ProtoTree.Shell.Utility.Paths
import ProtoTree.Shell.Utility.Printing
import ProtoTree.Shell.Utility.Reading
import ProtoTree.Shell.Utility.Running
import ProtoTree.Shell.Utility.Search
import ProtoTree.Shell.Utility.System
import ProtoTree.Shell.Utility.Walk
import ProtoTree.Source.Declarations
import ProtoTree.Source.Discovery
import ProtoTree.Source.File
import ProtoTree.SourceSet
import ProtoTree.SystemError
import ProtoTree.Text.Blank
import ProtoTree.Text.Case
import ProtoTree.Text.Lines
import ProtoTree.Text.Numeral
import ProtoTree.Text.Octets
import ProtoTree.Text.Printable
import ProtoTree.Text.Quoted
import ProtoTree.Text.Ranges
import ProtoTree.Text.Utf8
import ProtoTree.Text.Word
import ProtoTree.Toolchain
