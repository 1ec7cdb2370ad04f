import Expansion.Catalog.Basic
import Expansion.Catalog.CompiledModule
import Expansion.Catalog.Wire
import Expansion.CommandLine.Arguments
import Expansion.CommandLine.Options
import Expansion.CommandLine.Run
import Expansion.CommandLine.Toolchain
import Expansion.Compiler.Basic
import Expansion.Compiler.Delivery
import Expansion.Compiler.Request
import Expansion.Configuration
import Expansion.Diagnostic
import Expansion.Digest.Hex
import Expansion.Digest.Sha256
import Expansion.Disk.Access
import Expansion.Disk.Basic
import Expansion.Disk.FilePath
import Expansion.Document
import Expansion.DriverProgram.Backend
import Expansion.DriverProgram.Process
import Expansion.DriverProgram.Protocol
import Expansion.Failure
import Expansion.FileKinds
import Expansion.Json.Basic
import Expansion.Json.Decode
import Expansion.Json.Lexeme
import Expansion.Json.Printer
import Expansion.Json.Range
import Expansion.Json.Reader
import Expansion.Json.Skip
import Expansion.Log.Directive
import Expansion.Log.Event
import Expansion.Log.Filter
import Expansion.Log.Settings
import Expansion.Machine
import Expansion.Main
import Expansion.Outline.Artifact
import Expansion.Outline.Backend
import Expansion.Outline.Command
import Expansion.Outline.Compile
import Expansion.Outline.Line
import Expansion.OutputMode
import Expansion.Pattern.Basic
import Expansion.Pattern.CharSet
import Expansion.Pattern.Reader
import Expansion.Pattern.Search
import Expansion.Programs
import Expansion.Proofs.Compiler.Compile
import Expansion.Proofs.Compiler.Delivery
import Expansion.Proofs.Compiler.Requests
import Expansion.Proofs.Compiler.StagedArtifact
import Expansion.Proofs.Compiler.Upkeep
import Expansion.Proofs.Disk.FileNames
import Expansion.Proofs.Disk.Keeps
import Expansion.Proofs.Disk.Leads
import Expansion.Proofs.Disk.Making
import Expansion.Proofs.Disk.Paths
import Expansion.Proofs.Disk.Scratch
import Expansion.Proofs.Machine.Act
import Expansion.Proofs.Machine.Compositional
import Expansion.Proofs.Machine.Scratch
import Expansion.Proofs.ResultCache.Callers
import Expansion.Proofs.ResultCache.Lookup
import Expansion.Proofs.ResultCache.OneBuild
import Expansion.Proofs.Survey.Calls
import Expansion.Proofs.Survey.Order
import Expansion.Proofs.Text.Lowercase
import Expansion.Proofs.Text.Split
import Expansion.Proofs.Workbench.Agreement
import Expansion.Proofs.Workbench.Latest
import Expansion.Proofs.Workbench.Outputs
import Expansion.Proofs.Workbench.Requests
import Expansion.Proofs.Workbench.Scan
import Expansion.Proofs.Workbench.Steps
import Expansion.ResultCache
import Expansion.Shell.Arithmetic
import Expansion.Shell.Builtin
import Expansion.Shell.Condition
import Expansion.Shell.Decimal
import Expansion.Shell.Field
import Expansion.Shell.Format
import Expansion.Shell.Glob
import Expansion.Shell.Grammar
import Expansion.Shell.Number
import Expansion.Shell.Octets
import Expansion.Shell.Regex
import Expansion.Shell.Run
import Expansion.Shell.Signal
import Expansion.Shell.Source
import Expansion.Shell.State
import Expansion.Shell.Streams
import Expansion.Shell.Substitution
import Expansion.Shell.Syntax
import Expansion.Shell.Tool.Basic
import Expansion.Shell.Tool.Columns
import Expansion.Shell.Tool.Expression
import Expansion.Shell.Tool.Files
import Expansion.Shell.Tool.Grep
import Expansion.Shell.Tool.Lines
import Expansion.Shell.Tool.Names
import Expansion.Shell.Tool.Order
import Expansion.Shell.Tool.Sed.Run
import Expansion.Shell.Tool.Sed.Script
import Expansion.Shell.Toolbox
import Expansion.Shell.Word
import Expansion.Sources.Basic
import Expansion.Sources.Manifest
import Expansion.Survey.Basic
import Expansion.Survey.Fragments
import Expansion.Survey.Report
import Expansion.Text.Blank
import Expansion.Text.LetterTable
import Expansion.Text.Lowercase
import Expansion.Text.PrintableTable
import Expansion.Text.Quoted
import Expansion.Text.Split
import Expansion.Text.Utf8
import Expansion.Text.WordTable
import Expansion.Workbench
import Expansion.Yaml.Cursor
import Expansion.Yaml.Node
import Expansion.Yaml.Scalar
import Expansion.Yaml.Token
import Expansion.Proofs.Json.Scalars
import Expansion.Proofs.Json.Layout
import Expansion.Proofs.Json.Records
import Expansion.Proofs.Catalog.Wire
import Expansion.Proofs.Outline.Artifact
import Expansion.Proofs.DriverProgram.Protocol
import Expansion.Proofs.Catalog.CompiledModule
import Expansion.Proofs.Catalog.ShortName
import Expansion.Proofs.DriverProgram.Backend
import Expansion.Proofs.Machine.Restore
import Expansion.Proofs.Survey.Templates
import Expansion.Proofs.Text.Words
import Expansion.Proofs.Outline.Meaning
import Expansion.Proofs.Survey.Answers
import Expansion.Proofs.Outline.Surveyed
import Expansion.Proofs.DriverProgram.Generation
import Expansion.Proofs.DriverProgram.Verdict
import Expansion.Proofs.Disk.Confined
import Expansion.Proofs.Machine.Confined
import Expansion.Proofs.Machine.Lockstep
import Expansion.Proofs.Compiler.Confined
import Expansion.Proofs.Workbench.Traces
import Expansion.Proofs.DriverProgram.Traces
import Expansion.Proofs.Disk.Rewrite
import Expansion.Proofs.Disk.Descent
import Expansion.Proofs.Sources.Resolve
import Expansion.Proofs.Workbench.Regeneration
import Expansion.Proofs.Compiler.Warnings
import Expansion.Proofs.Survey.Alike
import Expansion.Proofs.Workbench.Warnings
import Expansion.Proofs.DriverProgram.Warnings
import Expansion.Proofs.Disk.Parent
import Expansion.Proofs.Disk.Later
import Expansion.Proofs.Disk.Repeats
import Expansion.Proofs.Workbench.Repetition
import Expansion.Proofs.Workbench.Transparency
import Expansion.Proofs.Machine.Milestones
import Expansion.Proofs.Compiler.Milestones
import Expansion.Proofs.Workbench.Milestones
import Expansion.Proofs.DriverProgram.Milestones
import Expansion.Proofs.Survey.Course
import Expansion.Proofs.Survey.Contents
import Expansion.Proofs.Sources.Exclusion
import Expansion.Proofs.Text.Trim
import Expansion.Proofs.Sources.Naming
import Expansion.Proofs.Sources.ListForm
import Expansion.Proofs.Configuration.Fingerprint
import Expansion.Proofs.Document
import Expansion.Proofs.Survey.Requests
import Expansion.Proofs.Survey.Report
import Expansion.Proofs.DriverProgram.Calls
import Expansion.Proofs.ResultCache.Uses
import Expansion.Proofs.Compiler.References
import Expansion.Proofs.Outline.Remarks
import Expansion.Proofs.Outline.Silence
import Expansion.Proofs.Text.Replace
import Expansion.Proofs.Outline.Fill
