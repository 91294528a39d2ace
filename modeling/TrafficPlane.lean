import TrafficPlane.CommandLine.Arguments
import TrafficPlane.CommandLine.Help
import TrafficPlane.CommandLine.Rendering
import TrafficPlane.CommandLine.Run
import TrafficPlane.CommandLine.Stamp
import TrafficPlane.Document.Basic
import TrafficPlane.Document.Json
import TrafficPlane.Document.Record
import TrafficPlane.Fault
import TrafficPlane.KeyMap
import TrafficPlane.Main
import TrafficPlane.Metrics
import TrafficPlane.Number.Binary64
import TrafficPlane.Pass.Basic
import TrafficPlane.Pass.Course
import TrafficPlane.Pass.Pool
import TrafficPlane.Pass.Run
import TrafficPlane.Proofs.Acceptance
import TrafficPlane.Proofs.Accounting
import TrafficPlane.Proofs.Anchoring
import TrafficPlane.Proofs.Assembly
import TrafficPlane.Proofs.Bundle
import TrafficPlane.Proofs.ConnectionManager
import TrafficPlane.Proofs.Consistency
import TrafficPlane.Proofs.Contention
import TrafficPlane.Proofs.Course
import TrafficPlane.Proofs.Criteria
import TrafficPlane.Proofs.Decimal
import TrafficPlane.Proofs.Decision
import TrafficPlane.Proofs.DeclaredRoutes
import TrafficPlane.Proofs.Endpoints
import TrafficPlane.Proofs.Faithfulness
import TrafficPlane.Proofs.Flaws
import TrafficPlane.Proofs.Fronts
import TrafficPlane.Proofs.History
import TrafficPlane.Proofs.Interleaving
import TrafficPlane.Proofs.KeyMap
import TrafficPlane.Proofs.LetterCase
import TrafficPlane.Proofs.Listener
import TrafficPlane.Proofs.Listing
import TrafficPlane.Proofs.LiveEndpoints
import TrafficPlane.Proofs.Membership
import TrafficPlane.Proofs.Messages
import TrafficPlane.Proofs.Metrics
import TrafficPlane.Proofs.PatternBoundary
import TrafficPlane.Proofs.PatternBrackets
import TrafficPlane.Proofs.PatternEnclosed
import TrafficPlane.Proofs.PatternMeaning
import TrafficPlane.Proofs.Pool
import TrafficPlane.Proofs.Publication
import TrafficPlane.Proofs.RenderedRoutes
import TrafficPlane.Proofs.Rendering
import TrafficPlane.Proofs.Repetition
import TrafficPlane.Proofs.ResourceName
import TrafficPlane.Proofs.Retention
import TrafficPlane.Proofs.RoundTrip
import TrafficPlane.Proofs.Run
import TrafficPlane.Proofs.Scheduling
import TrafficPlane.Proofs.Shares
import TrafficPlane.Proofs.Stages
import TrafficPlane.Proofs.Views
import TrafficPlane.Proofs.Wire
import TrafficPlane.Regex.Basic
import TrafficPlane.Regex.Bracket
import TrafficPlane.Regex.CharClass
import TrafficPlane.Regex.Escape
import TrafficPlane.Regex.NamedClass
import TrafficPlane.Regex.Parse
import TrafficPlane.Regex.Pattern
import TrafficPlane.Resource.ConnectionManager
import TrafficPlane.Resource.Encoding
import TrafficPlane.Resource.Message
import TrafficPlane.Resource.Name
import TrafficPlane.Routing.Matcher
import TrafficPlane.Routing.Request
import TrafficPlane.Routing.Table
import TrafficPlane.Settings
import TrafficPlane.Snapshot.Basic
import TrafficPlane.Snapshot.Shared
import TrafficPlane.Snapshot.Store
import TrafficPlane.Source.Declaration
import TrafficPlane.Source.Directory
import TrafficPlane.Source.FileTree
import TrafficPlane.Source.Memory
import TrafficPlane.Spec.Document
import TrafficPlane.Spec.Membership
import TrafficPlane.Spec.QualifiedName
import TrafficPlane.Spec.Routing
import TrafficPlane.Synthesis.Bundle
import TrafficPlane.Synthesis.Endpoints
import TrafficPlane.Synthesis.Listener
import TrafficPlane.Synthesis.RouteConfiguration
import TrafficPlane.Text.Blank
import TrafficPlane.Text.Case
import TrafficPlane.Text.Digit
import TrafficPlane.Text.Integer
import TrafficPlane.Text.Quoted
import TrafficPlane.Text.Slice
import TrafficPlane.Unicode.Age
import TrafficPlane.Unicode.BinaryProperty
import TrafficPlane.Unicode.CaseMapping
import TrafficPlane.Unicode.CodeRanges
import TrafficPlane.Unicode.Folding
import TrafficPlane.Unicode.GeneralCategory
import TrafficPlane.Unicode.Script
import TrafficPlane.Unicode.ScriptExtension
import TrafficPlane.Unicode.Segmentation
import TrafficPlane.Warning
import TrafficPlane.Wire.Field
import TrafficPlane.Wire.Varint
import TrafficPlane.Yaml.Cursor
import TrafficPlane.Yaml.Document
import TrafficPlane.Yaml.Lexer
import TrafficPlane.Yaml.Node
import TrafficPlane.Yaml.Scalar
import TrafficPlane.Yaml.ScalarText
import TrafficPlane.Yaml.Token
