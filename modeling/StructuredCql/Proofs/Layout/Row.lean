import StructuredCql.Proofs.Layout.Query
import StructuredCql.Statement.Row

/-!
# The layout of rows

The statements for one row are laid out from the names of its columns and
their values.  Every value is carried by a mark, apart from a value of an
inserted row that is left to the cluster.
-/

namespace StructuredCql

open StructuredCql.Text
open Piece

def insertedLayout (keys : List (String × KeyKind)) (column : String) :
    Value → List Piece
  | .now => [.plain (((keys.lookup column).getD .binaryId).generator.name ++
      "()")]
  | value => [.mark value]

def insertBody (table : String) (keys : List (String × KeyKind))
    (columns : List (String × Value)) : List Piece :=
  .plain ("INSERT INTO " ++ table ++ " (") ::
    (separated ", " (columns.map fun column =>
        [ofText (columnName column.1)]) ++
      .plain ") VALUES (" ::
        (separated ", " (columns.map fun column =>
            insertedLayout keys column.1 column.2) ++
          [.plain ")"]))

def insertLayout (table : String) (keys : List (String × KeyKind))
    (columns : List (String × Value))
    (guard : Except CompileError (Option Guard)) : List Piece :=
  insertBody table keys columns ++ ofGuard guard

def equationLayout (column : String × Value) : List Piece :=
  [ofText (columnName column.1), .plain " = ", .mark column.2]

def conditionLayout (filters : List (String × Value)) : List Piece :=
  separated " AND " (filters.map equationLayout)

def updateBody (columns filters : List (String × Value)) (table : String) :
    List Piece :=
  .plain ("UPDATE " ++ table ++ " SET ") ::
    (separated ", " (columns.map equationLayout) ++ .plain " WHERE " ::
      conditionLayout filters)

def updateLayout (table : String) (columns filters : List (String × Value))
    (guard : Except CompileError (Option Guard)) : List Piece :=
  updateBody columns filters table ++ ofGuard guard

def deleteBody (filters : List (String × Value)) (table : String) :
    List Piece :=
  .plain ("DELETE FROM " ++ table ++ " WHERE ") :: conditionLayout filters

def deleteLayout (table : String) (filters : List (String × Value))
    (guard : Except CompileError (Option Guard)) : List Piece :=
  deleteBody filters table ++ ofGuard guard

/-- The columns of a row by their names, each with its value. -/
def Row.Named (row : Row) (columns : List (String × Value)) : Prop :=
  row.map (fun entry => (entry.1.readText, entry.2)) =
    columns.map fun column => (.ok column.1, column.2)

theorem insertedValue_eq (keys : List (String × KeyKind)) (column : String)
    (value : Value) :
    insertedValue keys column value =
      writeAll (insertedLayout keys column value) := by
  cases value with
  | now =>
      rw [insertedValue, insertedLayout, Expr.render_eq_writeAll, Expr.layout,
        List.map_nil, separated, List.nil_append]
      simp only [writeAll, write_plain, pure_bind, String.append_empty,
        String.append_assoc]
      rfl
  | _ =>
      simp only [insertedValue, insertedLayout, Expr.render_eq_writeAll,
        Expr.layout]

theorem insertText_eq (table : String) (keys : List (String × KeyKind))
    (columns : List (String × Value))
    (guard : Except CompileError (Option Guard)) :
    (do
      let names ← insertedNames columns
      let values ← insertedValues keys columns
      let guard ← Build.checked guard
      pure (guarded
        ("INSERT INTO " ++ table ++ " (" ++ joined ", " names ++
          ") VALUES (" ++ joined ", " values ++ ")")
        guard)) =
      writeAll (insertLayout table keys columns guard) := by
  have names : insertedNames columns = (columns.map fun column =>
      [ofText (columnName column.1)]).mapM writeAll := by
    induction columns with
    | nil => rfl
    | cons column rest ih =>
        simp only [insertedNames, ih, List.map_cons, List.mapM_cons,
          writeAll_singleton, write_ofText]
  have values : insertedValues keys columns = (columns.map fun column =>
      insertedLayout keys column.1 column.2).mapM writeAll := by
    clear names
    induction columns with
    | nil => rfl
    | cons column rest ih =>
        simp only [insertedValues, insertedValue_eq, ih, List.map_cons,
          List.mapM_cons]
  rw [insertLayout, insertBody, writeAll_append_ofGuard, names, values]
  simp only [writeAll, writeAll_append, writeAll_separated, write_plain,
    pure_bind, bind_assoc, String.append_assoc, String.append_empty]

def IsEquality (filters : List (String × Value)) (filter : Expr) : Prop :=
  ∃ first rest, filter = .and first rest ∧ first :: rest =
    filters.map fun column =>
      .compare .equal (.column column.1) (.param column.2)

theorem conditionText_eq {filters : List (String × Value)} {filter : Expr}
    (same : IsEquality filters filter) :
    filter.render = writeAll (conditionLayout filters) := by
  obtain ⟨first, rest, rfl, same⟩ := same
  rw [Expr.render_eq_writeAll, Expr.layout, conditionLayout,
    ← List.map_cons, same, List.map_map]
  congr 3
  funext column
  simp only [Function.comp, Expr.layout, equationLayout, Comparison.symbol]
  rfl

theorem setsText_eq (columns : List (String × Value)) :
    assignmentList (columns.map fun column =>
        .set column.1 (.param column.2)) =
      writeAll (separated ", " (columns.map equationLayout)) := by
  rw [assignmentList_eq, List.map_map]
  congr 3
  funext column
  simp only [Function.comp, Assignment.layout, Expr.layout, equationLayout]

theorem updateText_eq {table : String} {columns filters : List (String × Value)}
    {filter : Expr} {guard : Except CompileError (Option Guard)}
    (same : IsEquality filters filter) :
    (do
      let sets ← assignmentList (columns.map fun column =>
        .set column.1 (.param column.2))
      let condition ← filter.render
      let guard ← Build.checked guard
      pure (guarded
        ("UPDATE " ++ table ++ " SET " ++ sets ++ " WHERE " ++ condition)
        guard)) =
      writeAll (updateLayout table columns filters guard) := by
  rw [updateLayout, updateBody, writeAll_append_ofGuard,
    conditionText_eq same, setsText_eq]
  simp only [writeAll, writeAll_append, write_plain, pure_bind, bind_assoc,
    String.append_assoc]

theorem deleteText_eq {table : String} {filters : List (String × Value)}
    {filter : Expr} {guard : Except CompileError (Option Guard)}
    (same : IsEquality filters filter) :
    (do
      let condition ← filter.render
      let guard ← Build.checked guard
      pure (guarded ("DELETE FROM " ++ table ++ " WHERE " ++ condition)
        guard)) =
      writeAll (deleteLayout table filters guard) := by
  rw [deleteLayout, deleteBody, writeAll_append_ofGuard,
    conditionText_eq same]
  simp only [writeAll, write_plain, pure_bind, bind_assoc]

namespace Row

theorem columnOf_eq_ok {shape : Shape} {field name : String} {column : Value} :
    columnOf shape field column = .ok name ↔ column.readText = .ok name := by
  unfold columnOf
  cases column.readText <;> simp [Reading.under, Reading.orFail]

theorem exists_named_of_mapM (shape : Shape) (field : String)
    (make : String → Value → α) {row : Row} {results : List α}
    (made : (row.mapM fun entry => do
      let column ← columnOf shape field entry.1
      pure (make column entry.2)) = .ok results) :
    ∃ columns, Named row columns ∧
      results = columns.map fun column => make column.1 column.2 := by
  induction row generalizing results with
  | nil =>
      cases made
      exact ⟨[], rfl, rfl⟩
  | cons entry rest ih =>
      rw [List.mapM_cons] at made
      cases read : columnOf shape field entry.1 with
      | error failure =>
          rw [read] at made
          cases made
      | ok name =>
          cases others : (rest.mapM fun entry => do
              let column ← columnOf shape field entry.1
              pure (make column entry.2)) with
          | error failure =>
              rw [read, others] at made
              cases made
          | ok tail =>
              rw [read, others] at made
              cases made
              obtain ⟨columns, named, rfl⟩ := ih others
              refine ⟨(name, entry.2) :: columns, ?_, rfl⟩
              simp only [Named, List.map_cons, columnOf_eq_ok.mp read]
                at named ⊢
              rw [named]

theorem named_of_named {row : Row} {columns : List (String × Value)}
    (read : row.named = .ok columns) : Named row columns := by
  obtain ⟨named, holds, same⟩ := exists_named_of_mapM .column "col" Prod.mk read
  rw [same]
  simpa using holds

theorem exists_named_of_assignments {row : Row}
    {assignments : List Assignment} (read : row.assignments = .ok assignments) :
    ∃ columns, Named row columns ∧
      assignments = columns.map fun column =>
        .set column.1 (.param column.2) :=
  exists_named_of_mapM .setAssignment "set"
    (fun column value => Assignment.set column (.param value)) read

theorem exists_named_of_equalityFilter {row : Row} {filter : Expr}
    (read : row.equalityFilter = .ok (some filter)) :
    ∃ columns, Named row columns ∧ IsEquality columns filter := by
  unfold equalityFilter at read
  cases made : (row.mapM fun entry => do
      let column ← columnOf .column "col" entry.1
      pure (Expr.compare .equal (.column column) (.param entry.2))) with
  | error failure =>
      rw [made] at read
      cases read
  | ok comparisons =>
      obtain ⟨columns, named, rfl⟩ := exists_named_of_mapM .column "col"
        (fun column value =>
          Expr.compare .equal (.column column) (.param value))
        made
      rw [made] at read
      cases columns with
      | nil => cases read
      | cons first rest =>
        cases read
        exact ⟨_, named, _, _, rfl, rfl⟩

end Row

end StructuredCql
