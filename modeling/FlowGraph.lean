import FlowGraph.Address.Basic
import FlowGraph.Address.Credentials
import FlowGraph.Address.Domain
import FlowGraph.Address.Host
import FlowGraph.Address.Percent
import FlowGraph.Address.Punycode
import FlowGraph.Address.Repertoire
import FlowGraph.Backend.Call
import FlowGraph.Backend.Client
import FlowGraph.Binding.Basic
import FlowGraph.Binding.Path
import FlowGraph.Binding.Reading
import FlowGraph.Catalog.Basic
import FlowGraph.Catalog.Declaration
import FlowGraph.Catalog.Handles
import FlowGraph.Catalog.Named
import FlowGraph.Catalog.Palette.Builder
import FlowGraph.Catalog.Palette.Core
import FlowGraph.Catalog.Palette.Logic
import FlowGraph.Catalog.Palette.Shared
import FlowGraph.Catalog.Palette.Tools
import FlowGraph.Catalog.Registry
import FlowGraph.Catalog.Standard
import FlowGraph.Connection.Guard
import FlowGraph.Connection.Verdict
import FlowGraph.Decimal.Notation
import FlowGraph.Decimal.Reading
import FlowGraph.Decimal.Shortest
import FlowGraph.Definition.Basic
import FlowGraph.Definition.Compile
import FlowGraph.Definition.Load
import FlowGraph.Definition.RunInput
import FlowGraph.Document.Basic
import FlowGraph.Document.Named
import FlowGraph.Document.Reading
import FlowGraph.Document.Structure
import FlowGraph.Edit.Command
import FlowGraph.Edit.Naming
import FlowGraph.Edit.Reading
import FlowGraph.Failure
import FlowGraph.Fields
import FlowGraph.Json.Encoding
import FlowGraph.Json.Reader
import FlowGraph.Json.Writer
import FlowGraph.Layout
import FlowGraph.Mapping.Basic
import FlowGraph.Mapping.Contract
import FlowGraph.Order
import FlowGraph.Proofs.Arrows
import FlowGraph.Proofs.Fields
import FlowGraph.Proofs.Naming
import FlowGraph.Proofs.Guard
import FlowGraph.Readiness.Check
import FlowGraph.Readiness.Context
import FlowGraph.Readiness.Issue
import FlowGraph.Report
import FlowGraph.Schema
import FlowGraph.Session.Basic
import FlowGraph.Session.Load
import FlowGraph.Session.Save
import FlowGraph.Session.Turns
import FlowGraph.Settings.Active
import FlowGraph.Settings.Environment
import FlowGraph.Settings.Group
import FlowGraph.Stage
import FlowGraph.Template
import FlowGraph.Text.Blank
import FlowGraph.Text.Case
import FlowGraph.Text.CaseTable
import FlowGraph.Text.CombiningTable
import FlowGraph.Text.Composed
import FlowGraph.Text.Digit
import FlowGraph.Text.Printable
import FlowGraph.Text.Quoted
import FlowGraph.Text.Ranges
import FlowGraph.Text.ScriptTable
import FlowGraph.Timeline
import FlowGraph.Value.Basic
import FlowGraph.Value.Display
import FlowGraph.Value.Key
import FlowGraph.Value.Walk
import FlowGraph.Written
import FlowGraph.Proofs.Sorting
import FlowGraph.Proofs.Sweep
import FlowGraph.Proofs.Admission
import FlowGraph.Proofs.Depth
import FlowGraph.Proofs.Edit.Outline
import FlowGraph.Proofs.Edit.Soundness
import FlowGraph.Proofs.Definition.StepId
import FlowGraph.Proofs.Definition.Placement
import FlowGraph.Proofs.Definition.Compiled
import FlowGraph.Proofs.Binding
import FlowGraph.Proofs.Definition.References
import FlowGraph.Proofs.Definition.Flow
import FlowGraph.Proofs.Definition.Sources
import FlowGraph.Proofs.Timeline
import FlowGraph.Proofs.Catalog
import FlowGraph.Proofs.Double
import FlowGraph.Proofs.Edit.Contents
import FlowGraph.Proofs.Definition.Wire
import FlowGraph.Proofs.Definition.Reload
import FlowGraph.Proofs.Definition.Configuration
import FlowGraph.Proofs.Definition.Resave
import FlowGraph.Proofs.Session.Desk
import FlowGraph.Proofs.Session.Loads
import FlowGraph.Proofs.Session.Runs
import FlowGraph.Proofs.Session.Credit
import FlowGraph.Proofs.Session.Archive
import FlowGraph.Proofs.Session.Stored
import FlowGraph.Proofs.Session.Refusals
import FlowGraph.Proofs.Binding.Forms
import FlowGraph.Proofs.Readiness.Inputs
import FlowGraph.Proofs.Definition.Translation
import FlowGraph.Proofs.Definition.WellFormed
import FlowGraph.Proofs.Definition.Owners
import FlowGraph.Proofs.Definition.Loaded
import FlowGraph.Proofs.Report.Wiring
import FlowGraph.Proofs.Report.Start
import FlowGraph.Proofs.Ascent
import FlowGraph.Proofs.Mapping.Resolution
import FlowGraph.Proofs.Mapping.Rounds
import FlowGraph.Proofs.Case
import FlowGraph.Proofs.Definition.Routes
import FlowGraph.Proofs.Definition.RunInput
import FlowGraph.Proofs.Definition.Idle
import FlowGraph.Proofs.Readiness.Samples
import FlowGraph.Proofs.Definition.SampleInput
import FlowGraph.Proofs.Mapping.Reconciled
import FlowGraph.Proofs.Edit.Patch
import FlowGraph.Proofs.Edit.Locality
import FlowGraph.Proofs.Definition.Tolerance
import FlowGraph.Proofs.Definition.Stability
import FlowGraph.Proofs.Layout.Columns
import FlowGraph.Proofs.Layout.Spread
import FlowGraph.Proofs.Layout.Rows
import FlowGraph.Proofs.Catalog.Declared
import FlowGraph.Proofs.Readiness.Handles
import FlowGraph.Proofs.Session.Watch
import FlowGraph.Proofs.Backend.Content
import FlowGraph.Proofs.Backend.Replies
import FlowGraph.Proofs.Path.Key
import FlowGraph.Proofs.Series
import FlowGraph.Proofs.Fresh
