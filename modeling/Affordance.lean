import Affordance.Command.Arguments
import Affordance.Command.Inspect
import Affordance.Command.Instrument
import Affordance.Command.Outcome
import Affordance.Config.Basic
import Affordance.Config.Lookup
import Affordance.Config.Overrides
import Affordance.Config.Reader
import Affordance.Disk
import Affordance.Handler.Cache
import Affordance.Handler.Generation
import Affordance.Handler.Module
import Affordance.Handler.Prompt
import Affordance.Handler.Selectors
import Affordance.Handler.Surface
import Affordance.Handler.Template
import Affordance.Instrument.Files
import Affordance.Instrument.Result
import Affordance.Instrument.Source
import Affordance.Json.Basic
import Affordance.Json.Decode
import Affordance.Json.Printer
import Affordance.Json.Reader
import Affordance.Keyed
import Affordance.Live.Address
import Affordance.Live.Element
import Affordance.Live.Matching
import Affordance.Live.Session
import Affordance.Main
import Affordance.Markup.Listener
import Affordance.Markup.Node
import Affordance.Markup.Page
import Affordance.Markup.Token
import Affordance.Model.Access
import Affordance.Model.Client
import Affordance.Model.Environment
import Affordance.Model.Message
import Affordance.Number.Measure
import Affordance.Number.Whole
import Affordance.Path
import Affordance.Problem
import Affordance.Script.Components
import Affordance.Script.Elements
import Affordance.Script.Entries
import Affordance.Script.Function
import Affordance.Script.Literal
import Affordance.Script.Props
import Affordance.Script.Request
import Affordance.Script.Scanner
import Affordance.Script.State
import Affordance.Script.Triviality
import Affordance.Script.TypeText
import Affordance.SingleFile.Analysis
import Affordance.SingleFile.Blocks
import Affordance.SingleFile.Script
import Affordance.SourceFile
import Affordance.Surface.Assembly
import Affordance.Surface.Collector
import Affordance.Surface.Dialect
import Affordance.Surface.Element
import Affordance.Surface.Handling
import Affordance.Surface.Label
import Affordance.Surface.Report
import Affordance.Surface.TagEvent
import Affordance.Surface.Vocabulary
import Affordance.Text.Basic
import Affordance.Text.Case
import Affordance.Text.CaseTable
import Affordance.Text.Class
import Affordance.Text.Digest
import Affordance.Text.Entity
import Affordance.Text.EntityTable
import Affordance.Text.Fresh
import Affordance.Text.Glob
import Affordance.Text.Half
import Affordance.Text.Naming
import Affordance.Text.Pattern
import Affordance.Text.Quoted
import Affordance.Text.Ranges
import Affordance.Text.Source
import Affordance.Text.Utf8
import Affordance.Told
import Affordance.Tool.Candidate
import Affordance.Tool.Group
import Affordance.Tool.Proposal
import Affordance.Tool.Risk
import Affordance.Tool.Schema
import Affordance.Tool.Stability
import Affordance.Proofs.Handler.Session
import Affordance.Proofs.Surface.Bindings
import Affordance.Proofs.Surface.Dropped
import Affordance.Proofs.Surface.References
import Affordance.Proofs.Tool.SubmitForms
import Affordance.Proofs.Markup.Nesting
import Affordance.Proofs.Tool.FormScope
import Affordance.Proofs.Markup.Restyling
import Affordance.Proofs.Markup.Options
import Affordance.Proofs.Tool.Restyled
import Affordance.Proofs.Tool.Identity
import Affordance.Proofs.Script.Scanning
import Affordance.Proofs.Script.Reading
import Affordance.Proofs.Text.Ahead
import Affordance.Proofs.Text.Octets
import Affordance.Proofs.Script.Expression
import Affordance.Proofs.Script.Openings
import Affordance.Proofs.Script.Tree
import Affordance.Proofs.Script.Names
import Affordance.Proofs.Script.ReadBack
import Affordance.Proofs.Script.ElementEnd
import Affordance.Proofs.Instrument.Probing
import Affordance.Proofs.Config.Levels
import Affordance.Proofs.Config.Ancestors
import Affordance.Proofs.Config.Lookup
import Affordance.Proofs.Tool.Naming
import Affordance.Proofs.Text.Fresh
import Affordance.Proofs.Text.SnakeCase
import Affordance.Proofs.Tool.ProposalList
import Affordance.Proofs.Tool.Parameters
import Affordance.Proofs.Handler.Code
import Affordance.Proofs.Handler.Assignments
import Affordance.Proofs.Number.Digits
import Affordance.Proofs.Number.Shortest
import Affordance.Proofs.Json.Numeral
import Affordance.Proofs.Json.Text
import Affordance.Proofs.Json.Regular
import Affordance.Proofs.Json.RoundTrip
import Affordance.Proofs.Handler.CacheFile
import Affordance.Proofs.Handler.CacheEntries
import Affordance.Proofs.Handler.CacheMap
import Affordance.Proofs.Handler.CacheFaults
import Affordance.Proofs.Live.Release
import Affordance.Proofs.Instrument.Escaping
import Affordance.Proofs.Succeeds
import Affordance.Proofs.Text.Matches
import Affordance.Proofs.Script.Brackets
import Affordance.Proofs.Surface.Labels
import Affordance.Proofs.Script.Analysed
import Affordance.Proofs.SingleFile.Analysed
import Affordance.Proofs.Instrument.Isolation
import Affordance.Proofs.Tool.Composition
import Affordance.Proofs.Tool.FormFields
import Affordance.Proofs.Text.Pieces
import Affordance.Proofs.Tool.Evidence
import Affordance.Proofs.Tool.Grouping
import Affordance.Proofs.Json.Pieces
import Affordance.Proofs.Handler.Asking
import Affordance.Proofs.Disk
import Affordance.Proofs.Command.Modules
import Affordance.Proofs.Text.Spelling
import Affordance.Proofs.Script.Calls
import Affordance.Proofs.Script.Trivial
import Affordance.Proofs.Live.Ranking
import Affordance.Proofs.Tool.Stability
import Affordance.Proofs.Surface.Untouched
import Affordance.Proofs.Surface.Sources
import Affordance.Proofs.Instrument.Assessment
import Affordance.Proofs.Tool.FieldNames
import Affordance.Proofs.Text.Escaped
import Affordance.Proofs.Handler.Literals
import Affordance.Proofs.Handler.ModuleLiterals
import Affordance.Proofs.Handler.SelectorQuotes
import Affordance.Proofs.Json.Canonical
import Affordance.Proofs.Handler.SurfaceText
import Affordance.Proofs.Live.Failures
import Affordance.Proofs.Model.Attempts
import Affordance.Proofs.Text.Cuts
import Affordance.Proofs.Text.Forward
import Affordance.Proofs.Text.Stripped
import Affordance.Proofs.Script.Declarations
import Affordance.Proofs.Script.FunctionBodies
import Affordance.Proofs.Script.BlockBodies
import Affordance.Proofs.Script.ExpressionBodies
import Affordance.Proofs.Script.Literal
import Affordance.Proofs.Routine
import Affordance.Proofs.Script.Halting
import Affordance.Proofs.Script.Bounds
import Affordance.Proofs.Script.Separated
import Affordance.Proofs.Script.ObjectEntries
import Affordance.Proofs.Surface.OpenFrames
import Affordance.Proofs.Script.ComponentSpans
