import StructuredCql.Binder
import StructuredCql.Calendar
import StructuredCql.CompileError
import StructuredCql.ErrorReport
import StructuredCql.Expr.Reading
import StructuredCql.Expr.Render
import StructuredCql.Expr.Weight
import StructuredCql.Failure
import StructuredCql.Json.Reader
import StructuredCql.Literal
import StructuredCql.Number.Binary64
import StructuredCql.Number.Decimal
import StructuredCql.Number.Shortest
import StructuredCql.Number.Whole
import StructuredCql.Proofs.BareWords
import StructuredCql.Proofs.Binding
import StructuredCql.Proofs.BulkRows
import StructuredCql.Proofs.Calls
import StructuredCql.Proofs.Clauses
import StructuredCql.Proofs.Components
import StructuredCql.Proofs.Constants
import StructuredCql.Proofs.Constants.Grammar
import StructuredCql.Proofs.Constants.Hexadecimal
import StructuredCql.Proofs.Constants.Numerals
import StructuredCql.Proofs.Constants.Reading
import StructuredCql.Proofs.Digits
import StructuredCql.Proofs.Dispatch
import StructuredCql.Proofs.Entries
import StructuredCql.Proofs.Failures
import StructuredCql.Proofs.Flaws
import StructuredCql.Proofs.Grammar.Filter
import StructuredCql.Proofs.Grammar.Skeleton
import StructuredCql.Proofs.Grammar.Term
import StructuredCql.Proofs.Grouping
import StructuredCql.Proofs.Hints
import StructuredCql.Proofs.Independence
import StructuredCql.Proofs.Independence.Expr
import StructuredCql.Proofs.Independence.Job
import StructuredCql.Proofs.Independence.Query
import StructuredCql.Proofs.Independence.Reflexive
import StructuredCql.Proofs.InsertedRows
import StructuredCql.Proofs.Layout
import StructuredCql.Proofs.Layout.Job
import StructuredCql.Proofs.Layout.Query
import StructuredCql.Proofs.Layout.Row
import StructuredCql.Proofs.Lexemes
import StructuredCql.Proofs.Lexemes.Expr
import StructuredCql.Proofs.Lexemes.Job
import StructuredCql.Proofs.LongNumbers
import StructuredCql.Proofs.Mutations
import StructuredCql.Proofs.Names
import StructuredCql.Proofs.Names.Expr
import StructuredCql.Proofs.Names.Job
import StructuredCql.Proofs.Outcomes
import StructuredCql.Proofs.Parts
import StructuredCql.Proofs.Records
import StructuredCql.Proofs.Reports
import StructuredCql.Proofs.Rewriting
import StructuredCql.Proofs.Rows
import StructuredCql.Proofs.SharedWords
import StructuredCql.Proofs.Spelling
import StructuredCql.Proofs.Spelling.Expr
import StructuredCql.Proofs.Spelling.Json
import StructuredCql.Proofs.Spelling.Query
import StructuredCql.Proofs.Spelling.Readers
import StructuredCql.Proofs.Templates
import StructuredCql.Proofs.Words
import StructuredCql.Proofs.Writable
import StructuredCql.Proofs.Writable.Query
import StructuredCql.Query
import StructuredCql.Query.Reading
import StructuredCql.Reading.Issue
import StructuredCql.Reading.Record
import StructuredCql.Reading.Scalar
import StructuredCql.Session
import StructuredCql.Statement
import StructuredCql.Statement.Clauses
import StructuredCql.Statement.Job
import StructuredCql.Statement.Row
import StructuredCql.Text.Basic
import StructuredCql.Text.Printable
import StructuredCql.Text.Quoted
import StructuredCql.Text.Verbatim
import StructuredCql.Value
import StructuredCql.Value.Display
import StructuredCql.Value.Fields
import StructuredCql.Value.Key
import StructuredCql.Value.Writable
import StructuredCql.Vocabulary
