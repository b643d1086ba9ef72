import StructuredCql.Statement.Job

/-!
# Sessions

A journal of the statements that were made on request, and pieces of a statement
one after the other, which share the list of bound values.
-/

namespace StructuredCql

def journalLines : Except Failure Statement → List String
  | .ok statement => [statement.journalLine]
  | .error _ => []

/-- A piece of a statement.  Where a piece takes a value as it is, a value of
another kind is refused; elsewhere the value is read first. -/
inductive PieceRequest where
  | bind (value : Value)
  | constant (value : Value)
  | operand (value : Value)
  | operandAsIs (value : Value)
  | column (name : String)
  | select (items : List Value)
  | groupBy (items : List Value)
  | orderBy (items : List Value)
  | assignments (items : Value)
  | assignmentsAsIs (items : List Value)
  | hint (text : String)
  | source (value : Value)
  | guard (options operation : Value)

namespace PieceRequest

def operandAsItIs : Value → Build String
  | .expr expression => expression.render
  | value => Build.refuse (.notAnOperand value)

def assignmentAsItIs : Value → Build String
  | .assignment change => change.render
  | value => Build.refuse (.notAnAssignment value)

def assignmentsAsTheyAre : List Value → Build (List String)
  | [] => pure []
  | item :: rest => do
      let text ← assignmentAsItIs item
      pure (text :: (← assignmentsAsTheyAre rest))

def operands (items : List Value) : Except Failure (List Expr) :=
  items.mapM fun item => (Expr.ofValue item).orFail .operand

def build : PieceRequest → Except Failure (Build String)
  | .bind value => pure (Build.mark value)
  | .constant value => pure (Build.checked value.constant)
  | .operand value => do
      let expression ← (Expr.ofValue value).orFail .operand
      pure expression.render
  | .operandAsIs value => pure (operandAsItIs value)
  | .column name => pure (Build.checked (columnName name))
  | .select items => do pure (selectClause (← operands items))
  | .groupBy items => do pure (groupByClause (← operands items))
  | .orderBy items => do
      let items ← items.mapM fun item =>
        (OrderItem.ofValue item).orFail .orderItem
      pure (orderByClause items)
  | .assignments items => do
      let query ← (Query.ofValue (.mapping
        [(.text "FROM", .source ⟨"t", none⟩),
          (.text "UPDATE", items)])).orFail .query
      pure (assignmentList query.assignments)
  | .assignmentsAsIs items => pure do
      let texts ← assignmentsAsTheyAre items
      pure (Text.joined ", " texts)
  | .hint text => pure (Build.checked (hintClause text))
  | .source value => do
      let source ← (Source.ofValue value).orFail .source
      pure (Build.checked source.tableName)
  | .guard options operation => do
      let requested ← (Guard.ofOptions options).orFail .options
      match operation.operation? with
      | none => throw (.refused (.unknownOperation operation))
      | some operation => pure do
          let guard ← Build.checked (guardFor requested operation)
          pure ((guard.map Guard.clause).getD "")

def run (piece : PieceRequest) (binder : Binder) :
    Except Failure String × Binder :=
  match piece.build with
  | .error failure => (.error failure, binder)
  | .ok build =>
      let (outcome, binder) := build.runWith binder
      (orRefuse outcome, binder)

end PieceRequest

def runPieces (binder : Binder) :
    List PieceRequest → List (Except Failure String × List Value)
  | [] => []
  | piece :: rest =>
      let (outcome, binder) := piece.run binder
      (outcome, binder.params) :: runPieces binder rest

end StructuredCql
