import FoxScript.CommandLine.Options
import FoxScript.CommandLine.Run
import FoxScript.Console
import FoxScript.Diagnostic
import FoxScript.Expr.Basic
import FoxScript.Expr.Expectation
import FoxScript.Expr.Parser
import FoxScript.Expr.Printer
import FoxScript.Expr.Uses
import FoxScript.File.Path
import FoxScript.File.System
import FoxScript.Library
import FoxScript.Main
import FoxScript.Number.Binary
import FoxScript.Number.Format
import FoxScript.Number.Numeral
import FoxScript.Number.Shortest
import FoxScript.Proofs.Expr.Grammar
import FoxScript.Proofs.Expr.Numbering
import FoxScript.Proofs.Scope.Block
import FoxScript.Proofs.Scope.Context
import FoxScript.Proofs.Scope.Renaming
import FoxScript.Proofs.Scope.Resolution
import FoxScript.Proofs.Session.Addressing
import FoxScript.Proofs.Session.Block
import FoxScript.Proofs.Session.Builtins
import FoxScript.Proofs.Session.Form
import FoxScript.Proofs.Session.Growth
import FoxScript.Proofs.Session.Imports
import FoxScript.Proofs.Session.Nested
import FoxScript.Proofs.Session.Observation
import FoxScript.Proofs.Session.Placement
import FoxScript.Proofs.Session.Renaming
import FoxScript.Proofs.Session.Restoration
import FoxScript.Proofs.Session.Simulation
import FoxScript.Proofs.Session.Steps
import FoxScript.Proofs.Session.Tie
import FoxScript.Proofs.Value.Store
import FoxScript.Regex.Bracket
import FoxScript.Regex.Error
import FoxScript.Regex.Footprint
import FoxScript.Regex.Meaning
import FoxScript.Regex.Node
import FoxScript.Regex.Parser
import FoxScript.Regex.Program
import FoxScript.Regex.Reader
import FoxScript.Regex.Search
import FoxScript.Regex.Syntax
import FoxScript.Scope.Resolution
import FoxScript.Session.Basic
import FoxScript.Session.Builtins
import FoxScript.Session.Evaluation
import FoxScript.Session.Nested
import FoxScript.Source.Position
import FoxScript.Text.Blank
import FoxScript.Text.Quoted
import FoxScript.Text.Utf8
import FoxScript.Token.Basic
import FoxScript.Token.Lexer
import FoxScript.Unicode.Age
import FoxScript.Unicode.Break
import FoxScript.Unicode.ByteRange
import FoxScript.Unicode.Category
import FoxScript.Unicode.CodeSet
import FoxScript.Unicode.Derived
import FoxScript.Unicode.Folding
import FoxScript.Unicode.Naming
import FoxScript.Unicode.Property
import FoxScript.Unicode.Recent
import FoxScript.Unicode.Script
import FoxScript.Unicode.ScriptExtension
import FoxScript.Value.Basic
import FoxScript.Value.Builtin
import FoxScript.Value.Element
import FoxScript.Value.Equality
import FoxScript.Value.Kind
import FoxScript.Value.Store
import FoxScript.Value.Text
import FoxScript.Proofs.Expr.Soundness
import FoxScript.Proofs.Expr.Completeness
import FoxScript.Proofs.File.Path
import FoxScript.Proofs.File.System
import FoxScript.Proofs.Scope.Imports
import FoxScript.Proofs.Token.Tiling
import FoxScript.Proofs.Scope.Faults
import FoxScript.Proofs.Session.Containment
import FoxScript.Proofs.Session.Failure
import FoxScript.Proofs.CommandLine.Script
import FoxScript.Proofs.CommandLine.Prompt
import FoxScript.Proofs.Console
import FoxScript.Proofs.Expr.Schedule
import FoxScript.Proofs.Expr.Assurance
import FoxScript.Proofs.Session.Discipline
import FoxScript.Proofs.Session.Discipline.Steps
import FoxScript.Proofs.Session.Discipline.Programs
import FoxScript.Proofs.Session.Discipline.Builtins
import FoxScript.Proofs.Session.Discipline.Evaluation
import FoxScript.Proofs.Session.Declarations
import FoxScript.Proofs.Session.Breaks
import FoxScript.Proofs.Session.Assurance
import FoxScript.Proofs.Session.SystemFaults
import FoxScript.Proofs.Session.Course
import FoxScript.Proofs.Session.Arrays
import FoxScript.Proofs.Session.Importing
import FoxScript.Proofs.Session.Pieces
import FoxScript.Proofs.Scope.Declared
import FoxScript.Proofs.Session.LocalNames
import FoxScript.Proofs.Value.Reach
import FoxScript.Proofs.Value.Equality
import FoxScript.Proofs.Session.Elements
import FoxScript.Proofs.Expr.Anonymous
import FoxScript.Proofs.Scope.Anonymous
import FoxScript.Proofs.Session.Readings
import FoxScript.Proofs.Number.Whole
import FoxScript.Proofs.Session.Discretion
import FoxScript.Proofs.Library.Code
import FoxScript.Proofs.Library.Place
import FoxScript.Proofs.Library.Traversal
import FoxScript.Proofs.Library.Loop
import FoxScript.Proofs.Library.Arrays
import FoxScript.Proofs.Library.Workshop
import FoxScript.Proofs.Library.Reversal
import FoxScript.Proofs.Library.Searching
import FoxScript.Proofs.Library.Sequences
import FoxScript.Proofs.Value.Names
import FoxScript.Proofs.Value.Text
import FoxScript.Proofs.Token.Spacing
import FoxScript.Proofs.Expr.Progress
import FoxScript.Proofs.Expr.Attempts
import FoxScript.Proofs.Expr.Located
import FoxScript.Proofs.Number.Truncation
import FoxScript.Proofs.Session.Matches
import FoxScript.Proofs.Session.Slices
import FoxScript.Proofs.Expr.Header
import FoxScript.Proofs.Expr.Lookahead
