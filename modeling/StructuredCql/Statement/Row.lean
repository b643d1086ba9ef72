import StructuredCql.Failure
import StructuredCql.Statement
import StructuredCql.Value
import StructuredCql.Value.Fields

/-!
# Statements for one row

A row gives values to columns, in an order, and may name a column more than
once.  All values of a row are bound; only an inserted row may leave a value
to the cluster.
-/

namespace StructuredCql

open StructuredCql.Text

abbrev Row : Type := List (Value × Value)

def Row.ofValue : Value → Row
  | .mapping entries => entries
  | value =>
      (value.elements?.getD []).filterMap fun element =>
        match element.elements? with
        | some [column, held] => some (column, held)
        | _ => none

namespace Row

def columnOf (shape : Shape) (name : String) (column : Value) :
    Except Failure String :=
  (column.readText.under (.key name)).orFail shape

def equalityFilter (row : Row) : Except Failure (Option Expr) := do
  let comparisons ← row.mapM fun entry => do
    let column ← columnOf .column "col" entry.1
    pure (Expr.compare .equal (.column column) (.param entry.2))
  match comparisons with
  | [] => pure none
  | first :: rest => pure (some (.and first rest))

def assignments (row : Row) : Except Failure (List Assignment) :=
  row.mapM fun entry => do
    let column ← columnOf .setAssignment "set" entry.1
    pure (.set column (.param entry.2))

def named (row : Row) : Except Failure (List (String × Value)) :=
  row.mapM fun entry => do
    let column ← columnOf .column "col" entry.1
    pure (column, entry.2)

end Row

/-- The table of a row, checked in both steps: its parts are texts, and the
texts are names. -/
def targetTable (keyspace table : Value) : Except Failure String := do
  let source ← (Source.ofParts keyspace table).orFail .source
  orRefuse source.tableName

def KeyKind.ofValue? : Value → Option KeyKind
  | .text name => KeyKind.ofName? name
  | .word (.keyKind known) => some known
  | _ => none

def declaredKeys (declarations : List (String × Value)) :
    Except CompileError (List (String × KeyKind)) := do
  let kinds ← declarations.mapM fun declaration =>
    match KeyKind.ofValue? declaration.2 with
    | some kind => .ok (declaration.1, kind)
    | none => .error (.unknownKeyKind declaration.2)
  pure (Entries.ofPairs (· = ·) kinds)

/-- A value that is left to the cluster, by the kind of its column, or a mark.
Without a declared kind the value is taken from the clock. -/
def insertedValue (keys : List (String × KeyKind)) (column : String) :
    Value → Build String
  | .now =>
      (Expr.call ((keys.lookup column).getD .binaryId).generator []).render
  | value => (Expr.param value).render

def insertedNames : List (String × Value) → Build (List String)
  | [] => pure []
  | (column, _) :: rest => do
      let name ← Build.checked (columnName column)
      pure (name :: (← insertedNames rest))

def insertedValues (keys : List (String × KeyKind)) :
    List (String × Value) → Build (List String)
  | [] => pure []
  | (column, value) :: rest => do
      let text ← insertedValue keys column value
      pure (text :: (← insertedValues keys rest))

def insertedColumns (keys : List (String × KeyKind))
    (row : List (String × Value)) : List (String × Value) :=
  let missing := keys.filter fun key => !row.any (·.1 = key.1)
  missing.map (fun key => (key.1, .now)) ++ row

def insertRow (keyspace table : Value) (fields generated : Row)
    (options : Options) : Except Failure Statement := do
  let requested ← orRefuse options.guard
  let row ← fields.named
  let keys ← orRefuse (declaredKeys (← generated.named))
  let columns := insertedColumns keys row
  if columns.isEmpty then
    throw (.refused .noColumns)
  let table ← targetTable keyspace table
  orRefuse <| Statement.ofBuild .insert options do
    let names ← insertedNames columns
    let values ← insertedValues keys columns
    let guard ← Build.checked (guardFor requested .insert)
    pure (guarded
      ("INSERT INTO " ++ table ++ " (" ++ joined ", " names ++ ") VALUES (" ++
        joined ", " values ++ ")")
      guard)

def updateRow (keyspace table : Value) (fields filters : Row)
    (options : Options) : Except Failure Statement := do
  let requested ← orRefuse options.guard
  if fields.isEmpty then
    throw (.refused .noFields)
  match ← filters.equalityFilter with
  | none => throw (.refused .unfilteredUpdate)
  | some filter =>
      let table ← targetTable keyspace table
      let assignments ← fields.assignments
      orRefuse <| Statement.ofBuild .update options do
        let sets ← assignmentList assignments
        let condition ← filter.render
        let guard ← Build.checked (guardFor requested .update)
        pure (guarded
          ("UPDATE " ++ table ++ " SET " ++ sets ++ " WHERE " ++ condition)
          guard)

def deleteRow (keyspace table : Value) (filters : Row) (options : Options) :
    Except Failure Statement := do
  let requested ← orRefuse options.guard
  match ← filters.equalityFilter with
  | none => throw (.refused .unfilteredDelete)
  | some filter =>
      let table ← targetTable keyspace table
      orRefuse <| Statement.ofBuild .delete options do
        let condition ← filter.render
        let guard ← Build.checked (guardFor requested .delete)
        pure (guarded ("DELETE FROM " ++ table ++ " WHERE " ++ condition) guard)

end StructuredCql
