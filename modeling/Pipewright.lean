import Pipewright.CommandLine.Grammar
import Pipewright.CommandLine.LogFilter
import Pipewright.CommandLine.Request
import Pipewright.CommandLine.Session
import Pipewright.Decimal.Binary64
import Pipewright.Decimal.Power
import Pipewright.Decimal.Reading
import Pipewright.Decimal.Shortest
import Pipewright.Dictionary
import Pipewright.Errno
import Pipewright.Failure
import Pipewright.Json.Decoder
import Pipewright.Json.Fault
import Pipewright.Json.Form
import Pipewright.Json.Numeral
import Pipewright.Json.Printer
import Pipewright.Json.Value
import Pipewright.Main
import Pipewright.Mapping.Document
import Pipewright.Mapping.Resolution
import Pipewright.Mapping.Table
import Pipewright.Package
import Pipewright.Path
import Pipewright.Pipeline.Actor
import Pipewright.Pipeline.Config
import Pipewright.Pipeline.Loading
import Pipewright.Project.Arguments
import Pipewright.Project.Context
import Pipewright.Project.Options
import Pipewright.Project.Rendering
import Pipewright.Proofs.Action
import Pipewright.Proofs.Mapping.Merging
import Pipewright.Proofs.Mapping.Resolution
import Pipewright.Proofs.Text.ByteOrder
import Pipewright.Proofs.World.Looking
import Pipewright.Settings.Conversion
import Pipewright.Settings.Field
import Pipewright.Settings.KeyPath
import Pipewright.Settings.Layer
import Pipewright.Settings.Loading
import Pipewright.Settings.Tool
import Pipewright.Settings.Variable
import Pipewright.Shell.Arithmetic
import Pipewright.Shell.Evaluation
import Pipewright.Shell.Field
import Pipewright.Shell.Format
import Pipewright.Shell.Host
import Pipewright.Shell.Pattern
import Pipewright.Shell.Reader
import Pipewright.Shell.State
import Pipewright.Shell.Syntax
import Pipewright.Shell.Utility
import Pipewright.Supervisor.State
import Pipewright.Supervisor.Watch
import Pipewright.Template.Helper
import Pipewright.Template.Layout
import Pipewright.Template.Nesting
import Pipewright.Template.Render
import Pipewright.Template.Scope
import Pipewright.Template.Syntax
import Pipewright.Template.Tag
import Pipewright.Text.Blank
import Pipewright.Text.LowerCase
import Pipewright.Text.Quoted
import Pipewright.Text.Unpictured
import Pipewright.Text.Utf8
import Pipewright.Timestamp
import Pipewright.Toml.Moment
import Pipewright.Toml.Reader
import Pipewright.Toml.Value
import Pipewright.Toolchain
import Pipewright.Workflow
import Pipewright.World
import Pipewright.World.FileSystem
import Pipewright.Proofs.Supervisor.History
import Pipewright.Proofs.Template.Lookup
import Pipewright.Proofs.Template.Strict
import Pipewright.Proofs.World.Directories
import Pipewright.Proofs.Project.Rendering
import Pipewright.Proofs.Workflow.Gathering
import Pipewright.Proofs.Workflow.Creation
import Pipewright.Proofs.Workflow.StrictKeys
import Pipewright.Proofs.Template.Scopes
import Pipewright.Proofs.Mapping.Blame
import Pipewright.Proofs.Mapping.Independence
import Pipewright.Proofs.Workflow.Stages
import Pipewright.Proofs.Workflow.StageOrder
import Pipewright.Proofs.World.Entries
import Pipewright.Proofs.Workflow.Consistency
import Pipewright.Proofs.Fetching.Pass
import Pipewright.Proofs.Workflow.Fetching
import Pipewright.Proofs.Fetching.Commands
import Pipewright.Proofs.Fetching.Repetition
import Pipewright.Proofs.Json.Reading
import Pipewright.Proofs.Pipeline.Reading
import Pipewright.Proofs.Project.Data
import Pipewright.Proofs.Project.Overwriting
import Pipewright.Proofs.Workflow.Forcing
import Pipewright.Proofs.Workflow.Offline
import Pipewright.Proofs.World.Lexical
import Pipewright.Proofs.World.Parents
import Pipewright.Proofs.World.Remaking
import Pipewright.Proofs.World.Relative
import Pipewright.Proofs.World.Rewriting
import Pipewright.Proofs.Workflow.Planning
import Pipewright.Proofs.World.Apart
import Pipewright.Proofs.Workflow.Idempotence
import Pipewright.Proofs.Json.Restoring
import Pipewright.Proofs.Pipeline.Writing
import Pipewright.Proofs.Settings.Parts
import Pipewright.Proofs.Documents
import Pipewright.Proofs.Settings.Sections
import Pipewright.Proofs.Settings.Layers
import Pipewright.Proofs.Settings.Loading
import Pipewright.Proofs.Mapping.History
import Pipewright.Proofs.Supervisor.Stuttering
import Pipewright.Proofs.Workflow.Running
import Pipewright.Proofs.Workflow.CommandPaths
import Pipewright.Proofs.Supervisor.Course
import Pipewright.Proofs.Settings.Texts
import Pipewright.Proofs.Template.Branches
import Pipewright.Proofs.Template.Extension
import Pipewright.Proofs.Template.Writing
import Pipewright.Proofs.Template.Likeness
import Pipewright.Proofs.Template.Iteration
import Pipewright.Proofs.Dictionary
import Pipewright.Proofs.Project.Arguments
import Pipewright.Proofs.World.Components
import Pipewright.Proofs.Project.TemplatePaths
import Pipewright.Proofs.Workflow.Refusals
import Pipewright.Proofs.Workflow.Pinning
import Pipewright.Proofs.CommandLine.Reading
import Pipewright.Proofs.CommandLine.Untested
import Pipewright.Proofs.CommandLine.Revisions
import Pipewright.Proofs.World.Segments
import Pipewright.Proofs.Fetching.SourceDirs
import Pipewright.Proofs.Fetching.Order
import Pipewright.Proofs.Template.ScopeStack
import Pipewright.Proofs.Template.LoopVariables
