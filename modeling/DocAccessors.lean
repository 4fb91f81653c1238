import DocAccessors.Analysis.Basic
import DocAccessors.CommandLine.Command
import DocAccessors.CommandLine.Execute
import DocAccessors.CommandLine.Flag
import DocAccessors.Configuration.Basic
import DocAccessors.Configuration.DataLayer
import DocAccessors.Configuration.File
import DocAccessors.Configuration.Validate
import DocAccessors.Configuration.YamlLayer
import DocAccessors.Constant.Arithmetic
import DocAccessors.Constant.Basic
import DocAccessors.Constant.Literal
import DocAccessors.Constant.Rounding
import DocAccessors.Data.Basic
import DocAccessors.Data.Json
import DocAccessors.Data.MessagePack
import DocAccessors.Data.Toml.Lexeme
import DocAccessors.Data.Toml.Read
import DocAccessors.Data.Toml.Table
import DocAccessors.Data.Toml.Write
import DocAccessors.Data.Yaml.Lexeme
import DocAccessors.Data.Yaml.Node
import DocAccessors.Data.Yaml.Scalar
import DocAccessors.Data.Yaml.Stream
import DocAccessors.Data.Yaml.Token
import DocAccessors.Data.Yaml.Write
import DocAccessors.Declaration.Basic
import DocAccessors.Declaration.Directory
import DocAccessors.Declaration.Extract
import DocAccessors.Declaration.Package
import DocAccessors.Diagnostic.Bag
import DocAccessors.Diagnostic.Basic
import DocAccessors.Diagnostic.Failure
import DocAccessors.Diagnostic.Report
import DocAccessors.Directive.Attribute
import DocAccessors.Directive.Basic
import DocAccessors.Directive.Option
import DocAccessors.Directive.OptionList
import DocAccessors.Disk.Basic
import DocAccessors.Disk.Glob
import DocAccessors.Doc.Basic
import DocAccessors.Export.Basic
import DocAccessors.Generate.Basic
import DocAccessors.Generate.Emitter
import DocAccessors.Generate.File
import DocAccessors.Layout.Columns
import DocAccessors.Layout.DocComment
import DocAccessors.Layout.Expressions
import DocAccessors.Layout.Printer
import DocAccessors.Layout.Statements
import DocAccessors.Log.Basic
import DocAccessors.Lookup.Basic
import DocAccessors.Main
import DocAccessors.Module.Constraint
import DocAccessors.Module.Find
import DocAccessors.Module.ImportPath
import DocAccessors.Module.Load
import DocAccessors.Number.Basic
import DocAccessors.Number.Calendar
import DocAccessors.Position.Basic
import DocAccessors.Position.Path
import DocAccessors.Position.Wildcard
import DocAccessors.Proofs.Configuration.Layers
import DocAccessors.Proofs.Declaration.Constants
import DocAccessors.Proofs.Declaration.Enum
import DocAccessors.Proofs.Declaration.FileOrder
import DocAccessors.Proofs.Declaration.Membership
import DocAccessors.Proofs.Declaration.Positions
import DocAccessors.Proofs.Declaration.SpelledOut
import DocAccessors.Proofs.Diagnostic.Accounting
import DocAccessors.Proofs.Diagnostic.Bag
import DocAccessors.Proofs.Diagnostic.Caret
import DocAccessors.Proofs.Diagnostic.Combine
import DocAccessors.Proofs.Diagnostic.Fault
import DocAccessors.Proofs.Diagnostic.Order
import DocAccessors.Proofs.Diagnostic.Report
import DocAccessors.Proofs.Diagnostic.Retention
import DocAccessors.Proofs.Directive.Fault
import DocAccessors.Proofs.Directive.Fragments
import DocAccessors.Proofs.Directive.OptionList
import DocAccessors.Proofs.Directive.Position
import DocAccessors.Proofs.Directive.ValueSpan
import DocAccessors.Proofs.Disk.Access
import DocAccessors.Proofs.Disk.Tree
import DocAccessors.Proofs.Disk.Walk
import DocAccessors.Proofs.Doc.Normalize
import DocAccessors.Proofs.Generate.Assembled
import DocAccessors.Proofs.Generate.FieldDecls
import DocAccessors.Proofs.Generate.FieldLookup
import DocAccessors.Proofs.Generate.FieldNames
import DocAccessors.Proofs.Generate.HandWritten
import DocAccessors.Proofs.Generate.Literal
import DocAccessors.Proofs.Generate.Formatted
import DocAccessors.Proofs.Generate.PackageNames
import DocAccessors.Proofs.Generate.UpToDate
import DocAccessors.Proofs.Generate.VariantSwitch
import DocAccessors.Proofs.Run.ErrorGate
import DocAccessors.Proofs.Run.ExitCode
import DocAccessors.Proofs.Run.Stale
import DocAccessors.Proofs.Settings.Conventions
import DocAccessors.Proofs.Settings.Layers
import DocAccessors.Proofs.Source.Declared
import DocAccessors.Proofs.Source.Invariant
import DocAccessors.Proofs.Source.Lexing
import DocAccessors.Proofs.Source.Pieces
import DocAccessors.Proofs.Source.Reader
import DocAccessors.Proofs.Source.Scan
import DocAccessors.Proofs.Source.StringLiteral
import DocAccessors.Proofs.Source.WholeTokens
import DocAccessors.Proofs.Source.Word
import DocAccessors.Proofs.Table.Accepted
import DocAccessors.Proofs.Table.Content
import DocAccessors.Proofs.Table.Coverage
import DocAccessors.Proofs.Table.Fault
import DocAccessors.Proofs.Table.Independence
import DocAccessors.Proofs.Table.Layer
import DocAccessors.Proofs.Table.Member
import DocAccessors.Proofs.Table.Order
import DocAccessors.Proofs.Table.Precedence
import DocAccessors.Proofs.Table.RepeatedValue
import DocAccessors.Proofs.Table.Variants
import DocAccessors.Proofs.Table.Verdict
import DocAccessors.Proofs.Text.Numeral
import DocAccessors.Proofs.Text.Quoted
import DocAccessors.Proofs.Text.Width
import DocAccessors.Run.Basic
import DocAccessors.Settings.Basic
import DocAccessors.Source.Grammar.Basic
import DocAccessors.Source.Grammar.Rules
import DocAccessors.Source.Grammar.Statements
import DocAccessors.Source.Item
import DocAccessors.Source.Lexeme
import DocAccessors.Source.Nesting
import DocAccessors.Source.Parse
import DocAccessors.Source.Token
import DocAccessors.Source.Tree
import DocAccessors.Table.Basic
import DocAccessors.Table.Binding
import DocAccessors.Table.Resolve
import DocAccessors.Text.Base64
import DocAccessors.Text.Basic
import DocAccessors.Text.Class
import DocAccessors.Text.LetterCase
import DocAccessors.Text.Quoted
import DocAccessors.Text.Width
import DocAccessors.Text.Words
import DocAccessors.Typing.Access
import DocAccessors.Typing.Builtin
import DocAccessors.Typing.Call
import DocAccessors.Typing.Composite
import DocAccessors.Typing.Control
import DocAccessors.Typing.Conversion
import DocAccessors.Typing.Expression
import DocAccessors.Typing.Inference
import DocAccessors.Typing.Instance
import DocAccessors.Typing.Object
import DocAccessors.Typing.Operand
import DocAccessors.Typing.Operator
import DocAccessors.Typing.Package
import DocAccessors.Typing.Question
import DocAccessors.Typing.Selector
import DocAccessors.Typing.Statement
import DocAccessors.Typing.Table
import DocAccessors.Typing.Type
import DocAccessors.Typing.TypeExpression
import DocAccessors.Typing.TypeSet
import DocAccessors.Typing.Variable
