import StructuredCql.Query
import StructuredCql.Reading.Issue

/-!
# Why a query is refused

Every refusal states its cause.  The words of a refusal are made from the
cause and stand elsewhere.
-/

namespace StructuredCql

inductive Relation where
  | or
  | not
  | isNull
  | isNotNull
  | notIn
deriving DecidableEq, Repr

def Relation.name : Relation → String
  | .or => "OR"
  | .not => "NOT"
  | .isNull => "IS NULL"
  | .isNotNull => "IS NOT NULL"
  | .notIn => "NOT IN"

/-- What a name was meant for: columns and types, or tables and keyspaces. -/
inductive NameRole where
  | identifier
  | tableName
deriving DecidableEq, Repr

def NameRole.name : NameRole → String
  | .identifier => "identifier"
  | .tableName => "table name"

inductive CompileError where
  | unsupportedRelation (relation : Relation)
  | unsupportedHint (hint : String)
  | badName (name : String) (role : NameRole)
  | noName (value : Value) (role : NameRole)
  | nullLiteral
  | noLiteralForm (value : Value)
  | notAnOperand (value : Value)
  | keywordFragment (entries : List (String × Value))
  | missingArgument (template : String) (arguments : Nat)
  | surplusArguments (template : String) (slots arguments : Nat)
  | unreadableArgument (value : Value) (issues : List Issue)
  | notAnAssignment (value : Value)
  | unknownOperation (value : Value)
  | rowOperation (operation : Operation)
  | unknownKeyKind (value : Value)
  | invalidOptions (issues : List Issue)
  | guardMismatch (guard : Guard) (operation : Operation)
  | guardedTruncation (guard : Guard)
  | misplacedClause (clause : Clause) (operation : Operation)
  /-- A whole number has too many digits for a text. -/
  | unwritableNumber
  | noColumns
  | noFields
  | noAssignments
  | unfilteredUpdate
  | unfilteredDelete

end StructuredCql
