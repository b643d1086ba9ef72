import StructuredCql.CompileError
import StructuredCql.Query.Reading
import StructuredCql.Value.Writable

/-!
# Reports of refusals

A report gives a refusal to the caller: its category, a message, the clause
that it concerns, a code and details.  Each cause has one report, unless a
value that the report would show cannot be written.
-/

namespace StructuredCql

open StructuredCql.Text

inductive Category where
  | compilation
  | relation
  | locking
  | expression
  | identifier
deriving DecidableEq, Repr

def Category.code : Category → String
  | .compilation => "COMPILATION_ERROR"
  | .relation => "UNSUPPORTED_RELATION"
  | .locking => "UNSUPPORTED_LOCKING"
  | .expression => "UNSUPPORTED_EXPRESSION"
  | .identifier => "BAD_IDENTIFIER"

def Category.name : Category → String
  | .compilation => "CompilationError"
  | .relation => "UnsupportedRelationError"
  | .locking => "UnsupportedLockingError"
  | .expression => "UnsupportedExpressionError"
  | .identifier => "BadIdentifierError"

/-- What a caller tells failures apart by.  Compilation errors are told apart
further by their category. -/
inductive ErrorClass where
  | parse
  | compilation (category : Category)
  | validation
  | value
deriving DecidableEq, Repr

namespace ErrorClass

def name : ErrorClass → String
  | .parse => "ParseError"
  | .compilation category => category.name
  | .validation => "ValidationError"
  | .value => "ValueError"

/-- The class of all errors that the library has of its own. -/
def base : String := "BrickCQLError"

/-- The wider classes that an error is caught as, the widest first, and values
last.  A bad name is a bad value as well. -/
def caughtAs : ErrorClass → List String
  | .parse => [base, name .parse]
  | .compilation .identifier => [base, name (.compilation .compilation),
      name .value]
  | .compilation _ => [base, name (.compilation .compilation)]
  | .validation | .value => [name .value]

end ErrorClass

/-- The attributes are what the report was made from, the details what it
tells about it. -/
structure ErrorReport where
  category : Category
  message : String
  clause : Option String
  code : String
  details : List (Value × Value)
  attributes : List (String × Value)

namespace ErrorReport

def keyed (entries : List (String × Value)) : List (Value × Value) :=
  entries.map fun entry => (.text entry.1, entry.2)

def compilation (message : String) (clause : Option String) : ErrorReport :=
  { category := .compilation, message, clause
    code := Category.compilation.code, details := [], attributes := [] }

def relation (relation : Value) (clause : Option String) : ErrorReport :=
  { category := .relation
    message := "CQL does not support " ++ relation.plainText ++ " relation."
    clause
    code := Category.relation.code
    details := keyed [("relation", relation)]
    attributes := [("relation", relation)] }

def locking (hint : Value) : ErrorReport :=
  { category := .locking
    message := "CQL does not support locking: " ++ hint.display ++
      ". Only the ALLOW FILTERING hint may be appended to a SELECT."
    clause := some Clause.lock.name
    code := Category.locking.code
    details := keyed [("hint", hint)]
    attributes := [("hint", hint)] }

def expression (message : String) (value : Value) : ErrorReport :=
  { category := .expression, message
    clause := none
    code := Category.expression.code
    details := keyed [("expression", .text value.display)]
    attributes := [("expression", value)] }

def identifier (name role : Value) : ErrorReport :=
  { category := .identifier
    message := "bad " ++ role.plainText ++ ": " ++ name.display
    clause := none
    code := Category.identifier.code
    details := keyed [("name", name), ("kind", role)]
    attributes := [("name", name), ("kind", role)] }

end ErrorReport

namespace CompileError

def expected (names : List String) : String :=
  (Value.list ((ascending names).map Value.text)).display

def inClause (message : String) (clause : Clause) : ErrorReport :=
  .compilation message (some clause.name)

def issuesMark : String := "<validation>"

def showing (value : Value) (report : Value → ErrorReport) :
    Option ErrorReport :=
  if value.isWritable then some (report value) else none

def report? : CompileError → Option ErrorReport
  | .unsupportedRelation relation =>
      some (.relation (.text relation.name) none)
  | .unsupportedHint hint => some (.locking (.text hint))
  | .badName name role => some (.identifier (.text name) (.text role.name))
  | .noName value role =>
      showing value fun value =>
        .identifier (.text value.plainText) (.text role.name)
  | .nullLiteral =>
      some (.expression
        ("None cannot be written as a CQL literal; bind it with " ++
          "\x7b\"param\": null\x7d instead.")
        .null)
  | .noLiteralForm value =>
      showing value fun value =>
        .expression
          ("No CQL literal form for " ++ value.kindName ++ " value " ++
            value.display ++ ".")
          value
  | .notAnOperand value =>
      showing value fun value =>
        .expression ("Unknown operand type: " ++ value.kindName) value
  | .keywordFragment entries =>
      let value := Value.mapping (entries.map fun entry =>
        (.text entry.1, entry.2))
      showing value fun value =>
        .expression
          ("Keyword fragment " ++ value.display ++
            " has no CQL rendering; use a text fragment.")
          value
  | .missingArgument template arguments =>
      some (.expression
        ("Fragment " ++ quoted template ++ " has more ? slots than its " ++
          toString arguments ++ " argument(s).")
        (.text template))
  | .surplusArguments template slots arguments =>
      some (.expression
        ("Fragment " ++ quoted template ++ " has " ++ toString slots ++
          " ? slot(s) but " ++ toString arguments ++ " argument(s).")
        (.text template))
  | .unreadableArgument value _ =>
      showing value fun value =>
        .expression ("Unsupported expression in fragment: " ++ value.display)
          value
  | .notAnAssignment value =>
      some (inClause ("Unknown assignment type: " ++ value.kindName) .update)
  | .unknownOperation value =>
      showing value fun value =>
        .compilation
          ("Unknown operation " ++ value.display ++ ". Expected one of " ++
            expected (Operation.each.map Operation.name) ++ ".")
          none
  | .rowOperation operation =>
      some (.compilation
        ("Operation '" ++ operation.name ++ "' compiles from row values; " ++
          "call StatementBuilder." ++ operation.name ++ "() instead.")
        none)
  | .unknownKeyKind value =>
      showing value fun value =>
        inClause
          ("Unknown key kind " ++ value.display ++ ". Expected one of " ++
            expected (KeyKind.all.map KeyKind.name) ++ ".")
          .insert
  | .invalidOptions _ =>
      some (inClause ("Invalid options: " ++ issuesMark) .options)
  | .guardMismatch guard operation =>
      some (inClause
        ("Option if: " ++ quoted guard.name ++ " does not apply to " ++
          operation.name ++ ".")
        .options)
  | .guardedTruncation guard =>
      some (inClause
        (guard.clause ++
          " requires a WHERE clause; TRUNCATE takes no condition.")
        .where)
  | .misplacedClause clause operation =>
      some (inClause
        (clause.name ++ " does not apply to " ++ operation.name ++ ".") clause)
  | .unwritableNumber => none
  | .noColumns =>
      some (inClause "INSERT requires at least one column." .insert)
  | .noFields => some (inClause "UPDATE requires at least one field." .update)
  | .noAssignments =>
      some (inClause "UPDATE requires at least one assignment." .update)
  | .unfilteredUpdate =>
      some (inClause "CQL does not support UPDATE without a WHERE clause."
        .where)
  | .unfilteredDelete =>
      some (inClause
        ("DELETE requires at least one filter; " ++
          "use delete_all to truncate a table.")
        .where)

def issues? : CompileError → Option (Shape × List Issue)
  | .unreadableArgument _ issues => some (.operand, issues)
  | .invalidOptions issues => some (.options, issues)
  | _ => none

end CompileError

end StructuredCql
