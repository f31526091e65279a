import PseudoLint.Text.Basic
import PseudoLint.Text.Blank
import PseudoLint.Text.WordChar
import PseudoLint.Text.Digit
import PseudoLint.Text.CaseTable
import PseudoLint.Text.CaseMap
import PseudoLint.Text.Printable
import PseudoLint.Text.Quoted
import PseudoLint.Text.Utf8
import PseudoLint.Numeral
import PseudoLint.Decimal.Shortest
import PseudoLint.Registry
import PseudoLint.Json.Basic
import PseudoLint.Json.Reader
import PseudoLint.Json.Writer
import PseudoLint.Keyword
import PseudoLint.Identifier
import PseudoLint.Literal
import PseudoLint.Line
import PseudoLint.Form
import PseudoLint.Symbol
import PseudoLint.SymbolTable
import PseudoLint.BlockStack
import PseudoLint.Diagnostic
import PseudoLint.Finding
import PseudoLint.Config
import PseudoLint.Rule.Basic
import PseudoLint.Rule.Wording
import PseudoLint.Rule.Block
import PseudoLint.Rule.Declaration
import PseudoLint.Rule.Shape
import PseudoLint.Rule.Usage
import PseudoLint.Sweep
import PseudoLint.Check
import PseudoLint.Report.Result
import PseudoLint.Report.Table
import PseudoLint.Report.Printed
import PseudoLint.File.Path
import PseudoLint.File.Tree
import PseudoLint.Config.Load
import PseudoLint.Sample.Discovery
import PseudoLint.Command.Option
import PseudoLint.Command.Usage
import PseudoLint.Command.Arguments
import PseudoLint.Command.Run
import PseudoLint.Page.Session
import PseudoLint.Page.View
import PseudoLint.Main
import PseudoLint.Proofs.Text.Pieces
import PseudoLint.Proofs.Text.Classes
import PseudoLint.Proofs.Text.UpperCase
import PseudoLint.Proofs.Text.UpperTwice
import PseudoLint.Proofs.Text.UpperWords
import PseudoLint.Proofs.Text.Newline
import PseudoLint.Proofs.Text.Trailing
import PseudoLint.Proofs.Text.Respacing
import PseudoLint.Proofs.Identifier
import PseudoLint.Proofs.Literal
import PseudoLint.Proofs.Literal.Hidden
import PseudoLint.Proofs.Literal.Clean
import PseudoLint.Proofs.Form
import PseudoLint.Proofs.Form.Trailing
import PseudoLint.Proofs.Line
import PseudoLint.Proofs.Line.Comment
import PseudoLint.Proofs.SymbolTable
import PseudoLint.Proofs.SymbolTable.Registration
import PseudoLint.Proofs.SymbolTable.History
import PseudoLint.Proofs.SymbolTable.Contents
import PseudoLint.Proofs.TypeText
import PseudoLint.Proofs.TypeText.Verdicts
import PseudoLint.Proofs.SymbolTable.Renumbering
import PseudoLint.Proofs.Diagnostic
import PseudoLint.Proofs.Diagnostic.FirstWins
import PseudoLint.Proofs.Config
import PseudoLint.Proofs.Shortcut
import PseudoLint.Proofs.Shortcut.SinglePass
import PseudoLint.Proofs.Sweep
import PseudoLint.Proofs.Finding.Wording
import PseudoLint.Proofs.Finding.Topic
import PseudoLint.Proofs.Finding.Renumbering
import PseudoLint.Proofs.Check.Step
import PseudoLint.Proofs.Check.Run
import PseudoLint.Proofs.Check.Registration
import PseudoLint.Proofs.Json.Reader
import PseudoLint.Proofs.Check.Fault
import PseudoLint.Proofs.Check.Provenance
import PseudoLint.Proofs.Check.Verdict
import PseudoLint.Proofs.Check.Undeclared
import PseudoLint.Proofs.Check.Growth
import PseudoLint.Proofs.Check.Listing
import PseudoLint.Proofs.Check.Redeclaration
import PseudoLint.Proofs.Check.Order
import PseudoLint.Proofs.Check.Layout
import PseudoLint.Proofs.Check.Renumbering
import PseudoLint.Proofs.Check.Inert
import PseudoLint.Proofs.Check.Agreement
import PseudoLint.Proofs.Block.Nesting
import PseudoLint.Proofs.Block.Acceptance
import PseudoLint.Proofs.Block.ExtraCloser
import PseudoLint.Proofs.Check.Quiet
import PseudoLint.Proofs.Core.Syntax
import PseudoLint.Proofs.Core.Wording
import PseudoLint.Proofs.Core.Line
import PseudoLint.Proofs.Core.Silence
import PseudoLint.Proofs.Core.Declaration
import PseudoLint.Proofs.Core.Program
import PseudoLint.Proofs.Page.Run
import PseudoLint.Proofs.Page.Checking
import PseudoLint.Proofs.Page.Editing
import PseudoLint.Proofs.Page.Loading
import PseudoLint.Proofs.Check.Comment
import PseudoLint.Proofs.Command.Views
import PseudoLint.Proofs.Report.Views
import PseudoLint.Proofs.Form.ArrayDeclaration
import PseudoLint.Proofs.Rule.Declaration
import PseudoLint.Proofs.Check.ArrayDeclaration
import PseudoLint.Proofs.Check.Bounds
import PseudoLint.Proofs.Block.Counting
import PseudoLint.Proofs.Check.Endfor
import PseudoLint.Proofs.Form.FileMode
import PseudoLint.Proofs.Form.ParameterList
import PseudoLint.Proofs.Check.ParameterList
import PseudoLint.Proofs.Naming.Trial
import PseudoLint.Proofs.Naming.Acceptance
import PseudoLint.Proofs.Check.OpenFile
import PseudoLint.Proofs.Form.ArrayAccess
import PseudoLint.Proofs.Numeral
import PseudoLint.Proofs.Check.ArrayParameter
import PseudoLint.Proofs.Shortcut.Lines
import PseudoLint.Proofs.Check.Words
import PseudoLint.Proofs.Text.Utf8
