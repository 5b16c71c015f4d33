import JavaBuilder.Builder.Assembly
import JavaBuilder.Builder.Comparison
import JavaBuilder.Builder.Context
import JavaBuilder.Builder.PropertyCode
import JavaBuilder.Builder.Selection
import JavaBuilder.Builder.Strategy.Collection
import JavaBuilder.Builder.Strategy.Default
import JavaBuilder.Builder.Strategy.Map
import JavaBuilder.Builder.Strategy.Multiset
import JavaBuilder.Builder.Strategy.Nested
import JavaBuilder.Builder.Strategy.Nullable
import JavaBuilder.Builder.Strategy.Optional
import JavaBuilder.Builder.Strategy.Required
import JavaBuilder.Builder.Tracking
import JavaBuilder.Builder.ValueMethods
import JavaBuilder.CommandLine.Notice
import JavaBuilder.CommandLine.Request
import JavaBuilder.CommandLine.Run
import JavaBuilder.CommandLine.Watch
import JavaBuilder.Decimal.Shortest
import JavaBuilder.Disk.FilePath
import JavaBuilder.Disk.Tree
import JavaBuilder.Glob.IgnoreRule
import JavaBuilder.Glob.PathFilter
import JavaBuilder.Glob.Pattern
import JavaBuilder.Java.ClassName
import JavaBuilder.Java.Code
import JavaBuilder.Java.Expr
import JavaBuilder.Java.Imports
import JavaBuilder.Java.Layout
import JavaBuilder.Java.Level
import JavaBuilder.Java.Literal
import JavaBuilder.Java.Member
import JavaBuilder.Java.Primitive
import JavaBuilder.Java.Stmt
import JavaBuilder.Java.TypeRef
import JavaBuilder.Java.TypeText
import JavaBuilder.Java.Unit
import JavaBuilder.Json.Decode
import JavaBuilder.Json.Number
import JavaBuilder.Json.Reading
import JavaBuilder.Json.Value
import JavaBuilder.Main
import JavaBuilder.Model.Annotation
import JavaBuilder.Model.Datatype
import JavaBuilder.Model.Decode
import JavaBuilder.Model.Descriptor
import JavaBuilder.Model.Encode
import JavaBuilder.Model.Error
import JavaBuilder.Model.Property
import JavaBuilder.Name.Casing
import JavaBuilder.Name.Identifier
import JavaBuilder.Project.Error
import JavaBuilder.Project.Generation
import JavaBuilder.Project.Ignored
import JavaBuilder.Project.Load
import JavaBuilder.Project.Output
import JavaBuilder.Project.Run
import JavaBuilder.Project.Scan
import JavaBuilder.Project.Settings
import JavaBuilder.Project.WatchEvent
import JavaBuilder.Proofs.Builder.Avoidance
import JavaBuilder.Proofs.Builder.Balance
import JavaBuilder.Proofs.Builder.Binding
import JavaBuilder.Proofs.Builder.Capture
import JavaBuilder.Proofs.Builder.Clashes
import JavaBuilder.Proofs.Builder.ClassParts
import JavaBuilder.Proofs.Builder.ClassUses
import JavaBuilder.Proofs.Builder.Collections
import JavaBuilder.Proofs.Builder.Documentation
import JavaBuilder.Proofs.Builder.Factories
import JavaBuilder.Proofs.Builder.Failure
import JavaBuilder.Proofs.Builder.FeatureGating
import JavaBuilder.Proofs.Builder.FieldTypes
import JavaBuilder.Proofs.Builder.HelperDeclarations
import JavaBuilder.Proofs.Builder.HelperUses
import JavaBuilder.Proofs.Builder.MergeCalls
import JavaBuilder.Proofs.Builder.Merging
import JavaBuilder.Proofs.Builder.PlanUses
import JavaBuilder.Proofs.Builder.Planning
import JavaBuilder.Proofs.Builder.ReadNames
import JavaBuilder.Proofs.Builder.RequiredTracking
import JavaBuilder.Proofs.Builder.Selecting
import JavaBuilder.Proofs.Builder.Signatures
import JavaBuilder.Proofs.Builder.StoredReferences
import JavaBuilder.Proofs.Builder.StoredValues
import JavaBuilder.Proofs.Builder.Strategies
import JavaBuilder.Proofs.Builder.StrategyUses
import JavaBuilder.Proofs.Builder.Styles
import JavaBuilder.Proofs.Builder.ValueEquality
import JavaBuilder.Proofs.Builder.ValueText
import JavaBuilder.Proofs.Builder.Vocabulary
import JavaBuilder.Proofs.CommandLine.Agreement
import JavaBuilder.Proofs.CommandLine.DiskChanges
import JavaBuilder.Proofs.Disk.Following
import JavaBuilder.Proofs.Disk.Parts
import JavaBuilder.Proofs.Disk.Writing
import JavaBuilder.Proofs.Imports.Consistency
import JavaBuilder.Proofs.Imports.Resolution
import JavaBuilder.Proofs.Imports.Run
import JavaBuilder.Proofs.Java.Calls
import JavaBuilder.Proofs.Java.ClassNameOrder
import JavaBuilder.Proofs.Java.ClassNameText
import JavaBuilder.Proofs.Java.Evaluation
import JavaBuilder.Proofs.Java.LiteralText
import JavaBuilder.Proofs.Java.Mentions
import JavaBuilder.Proofs.Java.Parts
import JavaBuilder.Proofs.Java.Resolution
import JavaBuilder.Proofs.Java.TypeCode
import JavaBuilder.Proofs.Java.Uses
import JavaBuilder.Proofs.Java.Writing
import JavaBuilder.Proofs.Java.Yields
import JavaBuilder.Proofs.Json.Decoding
import JavaBuilder.Proofs.Json.Written
import JavaBuilder.Proofs.Layout.ClassText
import JavaBuilder.Proofs.Layout.CodeLines
import JavaBuilder.Proofs.Layout.Depth
import JavaBuilder.Proofs.Layout.DocComments
import JavaBuilder.Proofs.Layout.DocumentedClass
import JavaBuilder.Proofs.Layout.Kept
import JavaBuilder.Proofs.Layout.KeptClass
import JavaBuilder.Proofs.Layout.KeptText
import JavaBuilder.Proofs.Layout.Literals
import JavaBuilder.Proofs.Layout.Nesting
import JavaBuilder.Proofs.Layout.Ordinary
import JavaBuilder.Proofs.Layout.Outline
import JavaBuilder.Proofs.Layout.Printed
import JavaBuilder.Proofs.Layout.PrintedClass
import JavaBuilder.Proofs.Layout.Reading
import JavaBuilder.Proofs.Layout.Scan
import JavaBuilder.Proofs.Layout.UnitText
import JavaBuilder.Proofs.Model.Decoded
import JavaBuilder.Proofs.Model.Edits
import JavaBuilder.Proofs.Model.NameForms
import JavaBuilder.Proofs.Model.RoundTrip
import JavaBuilder.Proofs.Model.Settings
import JavaBuilder.Proofs.Name.Constants
import JavaBuilder.Proofs.Outcome
import JavaBuilder.Proofs.Project.DescriptorOrder
import JavaBuilder.Proofs.Project.FileOutput
import JavaBuilder.Proofs.Project.Filtering
import JavaBuilder.Proofs.Project.Isolation
import JavaBuilder.Proofs.Project.OutputPaths
import JavaBuilder.Proofs.Project.Repeating
import JavaBuilder.Proofs.Project.RuleFiles
import JavaBuilder.Proofs.Project.Searching
import JavaBuilder.Proofs.Text.Diamond
import JavaBuilder.Proofs.Text.Order
import JavaBuilder.Proofs.Text.Segments
import JavaBuilder.Proofs.Text.Trim
import JavaBuilder.Proofs.TypeText.Grammar
import JavaBuilder.Proofs.TypeText.Lexing
import JavaBuilder.Proofs.TypeText.RoundTrip
import JavaBuilder.Proofs.Unicode.Classes
import JavaBuilder.Text.Hex
import JavaBuilder.Text.Lines
import JavaBuilder.Text.Order
import JavaBuilder.Text.Quoted
import JavaBuilder.Text.Segments
import JavaBuilder.Text.Trim
import JavaBuilder.Toml.Decode
import JavaBuilder.Toml.Lexeme
import JavaBuilder.Toml.Scalar
import JavaBuilder.Toml.Syntax
import JavaBuilder.Toml.Table
import JavaBuilder.Unicode.Blank
import JavaBuilder.Unicode.Case
import JavaBuilder.Unicode.Cluster
import JavaBuilder.Unicode.ClusterRole
import JavaBuilder.Unicode.Letter
import JavaBuilder.Unicode.Ranges
import JavaBuilder.Unicode.Visible
