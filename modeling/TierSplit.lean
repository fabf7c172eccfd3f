import TierSplit.Block.Basic
import TierSplit.Block.Crossing
import TierSplit.Block.Operation
import TierSplit.Block.Segment
import TierSplit.CommandLine.Arguments
import TierSplit.CommandLine.Execute
import TierSplit.CommandLine.Files
import TierSplit.CommandLine.Handler
import TierSplit.CommandLine.Markup
import TierSplit.CommandLine.Paragraph
import TierSplit.CommandLine.Screen
import TierSplit.CommandLine.Style
import TierSplit.Compiler
import TierSplit.Component.Load
import TierSplit.Component.Resource
import TierSplit.Component.Script
import TierSplit.Concrete.Conversion
import TierSplit.Concrete.Exchange
import TierSplit.Concrete.Node
import TierSplit.Concrete.Parsed
import TierSplit.Decimal.Binary
import TierSplit.Decimal.Fixed
import TierSplit.Decimal.Shortest
import TierSplit.Diagnostic
import TierSplit.Fragment
import TierSplit.Grammar
import TierSplit.Json.Reader
import TierSplit.Json.Token
import TierSplit.Json.Writer
import TierSplit.Log.Event
import TierSplit.Log.Line
import TierSplit.Log.Threshold
import TierSplit.Log.Timed
import TierSplit.Main
import TierSplit.Marker.Payload
import TierSplit.Marker.Scan
import TierSplit.Ordered
import TierSplit.Problem
import TierSplit.Record
import TierSplit.Result
import TierSplit.Scope.Graph
import TierSplit.Scope.Nesting
import TierSplit.Scope.Outline
import TierSplit.Scope.Store
import TierSplit.Settings.Basic
import TierSplit.Settings.EnvFile
import TierSplit.Settings.Layers
import TierSplit.Source
import TierSplit.Syntax.Node
import TierSplit.Syntax.Walk
import TierSplit.Text.Blank
import TierSplit.Text.CellWidth
import TierSplit.Text.Cluster
import TierSplit.Text.Emoji
import TierSplit.Text.Emoji.Table
import TierSplit.Text.Letter
import TierSplit.Text.LowerCase
import TierSplit.Text.Printable
import TierSplit.Text.Quoted
import TierSplit.Text.WholeNumber
import TierSplit.Tier
import TierSplit.Value
import TierSplit.Proofs.Related
import TierSplit.Proofs.Names
import TierSplit.Proofs.Fallible
import TierSplit.Proofs.Slices
import TierSplit.Proofs.Ancestry
import TierSplit.Proofs.Conversion
import TierSplit.Proofs.Spans
import TierSplit.Proofs.Walk
import TierSplit.Proofs.Payload
import TierSplit.Proofs.Placement
import TierSplit.Proofs.Discovery
import TierSplit.Proofs.Partition
import TierSplit.Proofs.ScopeRules
import TierSplit.Proofs.ScopeAgreement
import TierSplit.Proofs.Resolution
import TierSplit.Proofs.Ownership
import TierSplit.Proofs.Containment
import TierSplit.Proofs.Classification
import TierSplit.Proofs.Demands
import TierSplit.Proofs.Mentions
import TierSplit.Proofs.Roles
import TierSplit.Proofs.Tokens
import TierSplit.Proofs.Outside
import TierSplit.Proofs.Fragments
import TierSplit.Proofs.Coverage
import TierSplit.Proofs.Environments
import TierSplit.Proofs.Reach
import TierSplit.Proofs.Nesting
import TierSplit.Proofs.Crossings
import TierSplit.Proofs.Marshalling
import TierSplit.Proofs.Cuts
import TierSplit.Proofs.Mirrors
import TierSplit.Proofs.Alignment
import TierSplit.Proofs.Edits
import TierSplit.Proofs.Reexports
import TierSplit.Proofs.Opacity
import TierSplit.Proofs.Layers
import TierSplit.Proofs.Parting
import TierSplit.Proofs.Ambiguity
import TierSplit.Proofs.Freezing
import TierSplit.Proofs.Offsets
import TierSplit.Proofs.Failures
import TierSplit.Proofs.Reassembly
import TierSplit.Proofs.Requests
import TierSplit.Proofs.Batches
import TierSplit.Proofs.Refusals
import TierSplit.Proofs.OneRole
import TierSplit.Proofs.Depiction
import TierSplit.Proofs.SyntaxErrors
import TierSplit.Proofs.TierNames
import TierSplit.Proofs.EventLog
import TierSplit.Proofs.Flags
import TierSplit.Proofs.FirstScript
import TierSplit.Proofs.DefaultResource
import TierSplit.Proofs.ReservedNames
import TierSplit.Proofs.Traversal
import TierSplit.Proofs.ScopeHistory
