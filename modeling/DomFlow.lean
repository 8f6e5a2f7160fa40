import DomFlow.Analysis
import DomFlow.Assoc
import DomFlow.Command.Arguments
import DomFlow.Command.Discovery
import DomFlow.Command.Run
import DomFlow.Config.Basic
import DomFlow.Config.Lookup
import DomFlow.Files.Path
import DomFlow.Files.Tree
import DomFlow.Finding
import DomFlow.Flow.Lower
import DomFlow.Flow.Reading
import DomFlow.Flow.Step
import DomFlow.Main
import DomFlow.Patterns
import DomFlow.Proofs.Bindings
import DomFlow.Proofs.Branches
import DomFlow.Proofs.BuiltinPatterns
import DomFlow.Proofs.Correspondence
import DomFlow.Proofs.Coverage
import DomFlow.Proofs.Dependencies
import DomFlow.Proofs.Destructuring
import DomFlow.Proofs.DistinctKeys
import DomFlow.Proofs.FileWalk
import DomFlow.Proofs.Footprint
import DomFlow.Proofs.FrameStack
import DomFlow.Proofs.Frames
import DomFlow.Proofs.Growth
import DomFlow.Proofs.Identifiers
import DomFlow.Proofs.Independence
import DomFlow.Proofs.Interleavings
import DomFlow.Proofs.JsonText
import DomFlow.Proofs.Layout
import DomFlow.Proofs.Lists
import DomFlow.Proofs.MemberChains
import DomFlow.Proofs.Merge
import DomFlow.Proofs.NearestConfig
import DomFlow.Proofs.Nesting
import DomFlow.Proofs.Parentheses
import DomFlow.Proofs.Paths
import DomFlow.Proofs.PrototypePaths
import DomFlow.Proofs.Provenance
import DomFlow.Proofs.Quotes
import DomFlow.Proofs.ReadBack
import DomFlow.Proofs.ReadPositions
import DomFlow.Proofs.Readings
import DomFlow.Proofs.Repetitions
import DomFlow.Proofs.Reports
import DomFlow.Proofs.Resolution
import DomFlow.Proofs.Rewriting
import DomFlow.Proofs.Runs
import DomFlow.Proofs.Scopes
import DomFlow.Proofs.Searches
import DomFlow.Proofs.Sessions
import DomFlow.Proofs.SinkMonotone
import DomFlow.Proofs.SourceMonotone
import DomFlow.Proofs.Spellings
import DomFlow.Proofs.Terms
import DomFlow.Proofs.TreeShape
import DomFlow.Proofs.UnknownKeys
import DomFlow.Regex.Basic
import DomFlow.Regex.Property
import DomFlow.Regex.Reader
import DomFlow.Regex.Search
import DomFlow.Report.Basic
import DomFlow.Report.Document
import DomFlow.Report.Json
import DomFlow.Report.Pretty
import DomFlow.Sandbox.Builtin.Array
import DomFlow.Sandbox.Builtin.Collection
import DomFlow.Sandbox.Builtin.Function
import DomFlow.Sandbox.Builtin.Global
import DomFlow.Sandbox.Builtin.Json
import DomFlow.Sandbox.Builtin.Number
import DomFlow.Sandbox.Builtin.Object
import DomFlow.Sandbox.Builtin.RegExp
import DomFlow.Sandbox.Builtin.Table
import DomFlow.Sandbox.Builtin.Text
import DomFlow.Sandbox.Closure
import DomFlow.Sandbox.Code
import DomFlow.Sandbox.Compile
import DomFlow.Sandbox.Convert
import DomFlow.Sandbox.Decoy
import DomFlow.Sandbox.EarlyError
import DomFlow.Sandbox.Emulation
import DomFlow.Sandbox.Invoke
import DomFlow.Sandbox.Iterate
import DomFlow.Sandbox.Machine
import DomFlow.Sandbox.Naming
import DomFlow.Sandbox.Numeral
import DomFlow.Sandbox.Object
import DomFlow.Sandbox.RegExp
import DomFlow.Sandbox.Value
import DomFlow.Sandbox.World
import DomFlow.Scope.Tracker
import DomFlow.Scope.Tree
import DomFlow.Script.Ast
import DomFlow.Script.Declared
import DomFlow.Script.Parse
import DomFlow.Script.Parser.Basic
import DomFlow.Script.Parser.Cover
import DomFlow.Script.Parser.Expression
import DomFlow.Script.Parser.Function
import DomFlow.Script.Parser.Statement
import DomFlow.Script.Path
import DomFlow.Script.Reads
import DomFlow.Script.Token
import DomFlow.Text.Category
import DomFlow.Text.CharClass
import DomFlow.Text.CodeUnits
import DomFlow.Text.Decimal
import DomFlow.Text.LetterCase
import DomFlow.Text.Quoted
import DomFlow.Text.WritingSystem
import DomFlow.Toml.Document
import DomFlow.Toml.Scalar
import DomFlow.Toml.Value
