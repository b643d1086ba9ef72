import StructuredCql.Expr.Render
import StructuredCql.Query
import StructuredCql.Text.Verbatim

/-!
# Clauses

The text of each clause of a statement.  Clauses are written in the order in
which they stand in the statement, so that the bound values keep that order.
-/

namespace StructuredCql

open StructuredCql.Text

def selectClause : List Expr → Build String
  | [] => pure "SELECT *"
  | items => do
      let items ← Expr.renderAll items
      pure ("SELECT " ++ joined ", " items)

def groupByClause (items : List Expr) : Build String := do
  let items ← Expr.renderAll items
  pure ("GROUP BY " ++ joined ", " items)

def OrderItem.render (item : OrderItem) : Build String := do
  let text ← item.operand.render
  match item.direction with
  | .ascending => pure text
  | .descending => pure (text ++ " DESC")

def orderItems : List OrderItem → Build (List String)
  | [] => pure []
  | item :: rest => do
      let text ← item.render
      pure (text :: (← orderItems rest))

def orderByClause (items : List OrderItem) : Build String := do
  let items ← orderItems items
  pure ("ORDER BY " ++ joined ", " items)

def limitClause (count : Nat) : Build String :=
  if Whole.isWritable count then pure ("LIMIT " ++ toString count)
  else Build.refuse .unwritableNumber

def Assignment.render : Assignment → Build String
  | .set column value => do
      let column ← Build.checked (columnName column)
      let value ← value.render
      pure (column ++ " = " ++ value)
  | .increment column amount => do
      let column ← Build.checked (columnName column)
      let amount ← amount.render
      pure (column ++ " = " ++ column ++ " + " ++ amount)

def assignmentTexts : List Assignment → Build (List String)
  | [] => pure []
  | assignment :: rest => do
      let text ← assignment.render
      pure (text :: (← assignmentTexts rest))

def assignmentList (assignments : List Assignment) : Build String := do
  let texts ← assignmentTexts assignments
  pure (joined ", " texts)

def hintClause (hint : String) : Except CompileError String :=
  if isFilteringHint hint.toList then .ok hint
  else .error (.unsupportedHint hint)

/-- The guard of an operation.  Reading takes none, whatever is asked for. -/
def guardFor (requested : Option Guard) (operation : Operation) :
    Except CompileError (Option Guard) :=
  match requested with
  | none => .ok none
  | some guard =>
      if operation = .all then .ok none
      else if guard.appliesTo operation then .ok (some guard)
      else .error (.guardMismatch guard operation)

def guarded (text : String) : Option Guard → String
  | none => text
  | some guard => text ++ " " ++ guard.clause

end StructuredCql
