import ImageRecipe.CommandLine.Event
import ImageRecipe.CommandLine.FileTree
import ImageRecipe.CommandLine.Options
import ImageRecipe.CommandLine.Run
import ImageRecipe.Decimal.Notation
import ImageRecipe.Decimal.Reader
import ImageRecipe.Decimal.Shortest
import ImageRecipe.Dockerfile.Grammar
import ImageRecipe.Dockerfile.LineIndex
import ImageRecipe.Dockerfile.Quoted
import ImageRecipe.Dockerfile.Verification
import ImageRecipe.Document
import ImageRecipe.Document.Error
import ImageRecipe.Failure
import ImageRecipe.Instruction.Builtin
import ImageRecipe.Instruction.Constraint
import ImageRecipe.Instruction.Error
import ImageRecipe.Instruction.Handler
import ImageRecipe.Instruction.Line
import ImageRecipe.Instruction.Pattern
import ImageRecipe.Instruction.Registry
import ImageRecipe.Instruction.Session
import ImageRecipe.Json.Basic
import ImageRecipe.Json.Comparison
import ImageRecipe.Json.Printer
import ImageRecipe.Json.Reader
import ImageRecipe.Layout
import ImageRecipe.Main
import ImageRecipe.Mapping
import ImageRecipe.Proofs.Instruction.Acceptance
import ImageRecipe.Proofs.Instruction.Builtin
import ImageRecipe.Proofs.Instruction.Constraint
import ImageRecipe.Proofs.Instruction.Dispatch
import ImageRecipe.Proofs.Instruction.Pattern
import ImageRecipe.Proofs.Instruction.Registration
import ImageRecipe.Proofs.Instruction.Session
import ImageRecipe.Proofs.Instruction.Table
import ImageRecipe.Proofs.Mapping
import ImageRecipe.Proofs.Renderer
import ImageRecipe.Proofs.Results
import ImageRecipe.Proofs.Template.Engine
import ImageRecipe.Proofs.Template.Library
import ImageRecipe.Proofs.Template.Rendering
import ImageRecipe.Proofs.Value.Distinct
import ImageRecipe.Proofs.Value.Json
import ImageRecipe.Renderer
import ImageRecipe.Shape
import ImageRecipe.Template.Engine
import ImageRecipe.Template.Evaluation
import ImageRecipe.Template.Expression
import ImageRecipe.Template.Expression.Reader
import ImageRecipe.Template.Fault
import ImageRecipe.Template.Filter
import ImageRecipe.Template.Library
import ImageRecipe.Template.Meaning
import ImageRecipe.Template.Node
import ImageRecipe.Template.Number
import ImageRecipe.Template.Outline
import ImageRecipe.Template.Path
import ImageRecipe.Template.Piece
import ImageRecipe.Template.Pointer
import ImageRecipe.Template.Printed
import ImageRecipe.Template.Reader
import ImageRecipe.Template.Rendering
import ImageRecipe.Template.Scope
import ImageRecipe.Template.Search
import ImageRecipe.Text.Blank
import ImageRecipe.Text.Cluster
import ImageRecipe.Text.ClusterTables
import ImageRecipe.Text.LetterTables
import ImageRecipe.Text.Letters
import ImageRecipe.Text.Occurrence
import ImageRecipe.Text.Printable
import ImageRecipe.Text.Quoted
import ImageRecipe.Value
import ImageRecipe.Value.Depth
import ImageRecipe.Value.Json
import ImageRecipe.Value.Yaml
import ImageRecipe.Whole
import ImageRecipe.Yaml.Anchors
import ImageRecipe.Yaml.Cursor
import ImageRecipe.Yaml.Meaning
import ImageRecipe.Yaml.Node
import ImageRecipe.Yaml.Problem
import ImageRecipe.Yaml.Reader
import ImageRecipe.Yaml.Scalar
import ImageRecipe.Yaml.Token
import ImageRecipe.Yaml.Tree
import ImageRecipe.Proofs.Instruction.Build
import ImageRecipe.Proofs.Instruction.Definition
import ImageRecipe.Proofs.Instruction.Failure
import ImageRecipe.Proofs.Instruction.Reading
import ImageRecipe.Proofs.Decimal.Notation
import ImageRecipe.Proofs.Json.Printer
import ImageRecipe.Proofs.Text.LogicalLine
import ImageRecipe.Proofs.Value.Plain
import ImageRecipe.Proofs.Instruction.LogicalLine
import ImageRecipe.Proofs.Decimal.Digits
import ImageRecipe.Json.Grammar
import ImageRecipe.Proofs.Json.Reader
import ImageRecipe.Proofs.Json.Grammar
import ImageRecipe.Proofs.Text.Word
import ImageRecipe.Proofs.Value.ReadBack
import ImageRecipe.Proofs.Instruction.ExecForm
import ImageRecipe.Proofs.Value.RoundTrip
import ImageRecipe.Proofs.Value.Yaml
import ImageRecipe.Proofs.CommandLine.Effect
import ImageRecipe.Proofs.Instruction.ImageText
import ImageRecipe.Proofs.Instruction.Absence
import ImageRecipe.Proofs.Template.Unmarked
import ImageRecipe.Proofs.CommandLine.Stages
import ImageRecipe.Proofs.CommandLine.Lines
import ImageRecipe.Proofs.CommandLine.Files
import ImageRecipe.Proofs.CommandLine.Variation
import ImageRecipe.Proofs.Instruction.Assignment
import ImageRecipe.Proofs.Instruction.ImageMapping
import ImageRecipe.Proofs.Instruction.HealthCheck
import ImageRecipe.Proofs.Instruction.Nesting
import ImageRecipe.Proofs.Instruction.Continuation
import ImageRecipe.Proofs.Instruction.EmptyImage
import ImageRecipe.Proofs.Instruction.EmptyArray
import ImageRecipe.Proofs.Text.LetterCase
import ImageRecipe.Proofs.Instruction.Capitals
import ImageRecipe.Proofs.Instruction.Traced
import ImageRecipe.Proofs.Instruction.NameCase
import ImageRecipe.Proofs.Instruction.Order
import ImageRecipe.Proofs.Value.Comparison
import ImageRecipe.Proofs.Mapping.History
import ImageRecipe.Proofs.Mapping.Run
import ImageRecipe.Proofs.Mapping.Layers
import ImageRecipe.Proofs.Value.Import
import ImageRecipe.Proofs.Instruction.WellFormed
import ImageRecipe.Proofs.Instruction.Holding
import ImageRecipe.Proofs.Dockerfile.LineRange
import ImageRecipe.Proofs.Document.Context
import ImageRecipe.Proofs.Template.Search
import ImageRecipe.Proofs.Renderer.Directories
