import StructuredCql.Value

/-!
# Queries

A query names a table and may set clauses.  Which of the clauses a statement
can carry depends on the operation; a query itself may set any of them.
-/

namespace StructuredCql

structure OrderItem where
  operand : Expr
  direction : Direction

structure Query where
  source : Source
  selection : List Expr
  filter : Option Expr
  grouping : List Expr
  ordering : List OrderItem
  limit : Option Nat
  hint : Option String
  assignments : List Assignment

inductive Clause where
  | select
  | where
  | groupBy
  | orderBy
  | limit
  | lock
  | update
  | insert
  | options
deriving DecidableEq, Repr

namespace Clause

def name : Clause → String
  | .select => "SELECT"
  | .where => "WHERE"
  | .groupBy => "GROUP_BY"
  | .orderBy => "ORDER_BY"
  | .limit => "LIMIT"
  | .lock => "LOCK"
  | .update => "UPDATE"
  | .insert => "INSERT"
  | .options => "OPTIONS"

end Clause

namespace Query

def writtenHint (query : Query) : Option String :=
  query.hint.filter fun hint => !hint.isEmpty

/-- Whether a query sets a clause.  Empty lists and empty hints are not set. -/
def sets (query : Query) : Clause → Bool
  | .select => !query.selection.isEmpty
  | .where => query.filter.isSome
  | .groupBy => !query.grouping.isEmpty
  | .orderBy => !query.ordering.isEmpty
  | .limit => query.limit.isSome
  | .lock => query.writtenHint.isSome
  | .update => !query.assignments.isEmpty
  | .insert | .options => false

end Query

end StructuredCql
