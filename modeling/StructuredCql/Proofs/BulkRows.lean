import StructuredCql.Proofs.Mutations
import StructuredCql.Proofs.Rows

/-!
# Rows and queries for many rows

What changes a row can also be asked for by a query for many rows, which sets
the columns of the row under its conditions, and so can its removal.  The main
statement is that both ways succeed for the same tables, rows and options, and
give the same text with the same values for its marks.

A statement of either way is made from the same pieces with a guard behind
them.  The ways differ in the order of their checks and in the operation that
the guard is looked up for, and both tables of guards admit the same one.
-/

namespace StructuredCql

open StructuredCql.Text Piece

def Statement.content (statement : Statement) :
    String × List Value × Options :=
  (statement.text, statement.params, statement.options)

/-- A query that sets columns where conditions hold; all values are bound. -/
def Query.ofRows (source : Source) (columns : List (String × Value))
    (condition : String × Value) (conditions : List (String × Value)) :
    Query where
  source := source
  selection := []
  filter := some (.and (equation condition) (conditions.map equation))
  grouping := []
  ordering := []
  limit := none
  hint := none
  assignments := columns.map fun column => .set column.1 (.param column.2)

/-! ## Pieces with a guard behind them -/

/-- A statement is made for the table that a source names, with the guard that
the options ask for. -/
def MadeFrom (operation : Operation) (body : String → List Piece)
    (source : Source) (options : Options) (statement : Statement) : Prop :=
  ∃ name, source.tableName = .ok name ∧
    ∃ requested, options.guard = .ok requested ∧
      Statement.ofBuild operation options
        (writeAll (body name ++ ofGuard (guardFor requested operation))) =
          .ok statement

theorem exists_content_madeFrom {operation other : Operation}
    (changes : operation ≠ .all) (otherChanges : other ≠ .all)
    (same : operation.guard = other.guard) {body : String → List Piece}
    {source : Source} {options : Options}
    {content : String × List Value × Options} :
    (∃ statement, MadeFrom operation body source options statement ∧
      statement.content = content) ↔
    ∃ statement, MadeFrom other body source options statement ∧
      statement.content = content := by
  have texts : options.guardText? operation = options.guardText? other := by
    rw [Options.guardText?, same]
    rfl
  simp only [MadeFrom, Options.exists_guarded_iff changes,
    Options.exists_guarded_iff otherChanges, texts]
  constructor
  · rintro ⟨_, ⟨name, target, sound, suffix, admitted, rfl⟩, rfl⟩
    exact ⟨_, ⟨name, target, sound, suffix, admitted, rfl⟩, rfl⟩
  · rintro ⟨_, ⟨name, target, sound, suffix, admitted, rfl⟩, rfl⟩
    exact ⟨_, ⟨name, target, sound, suffix, admitted, rfl⟩, rfl⟩

/-! ## Rows -/

section Rows

variable {fields filters : Row} {column condition : String × Value}
  {columns conditions : List (String × Value)}
  {keyspace table : Value} {options : Options} {statement : Statement}

theorem targetTable_eq_ok {name : String} :
    targetTable keyspace table = .ok name ↔
      ∃ source, Source.ofParts keyspace table = .ok source ∧
        source.tableName = .ok name := by
  rw [targetTable, bind_eq_ok_iff]
  cases Source.ofParts keyspace table <;> simp [Reading.orFail, orRefuse_eq_ok]

private theorem madeFrom_of_steps {operation : Operation}
    {body : String → List Piece} :
    (do
      let requested ← orRefuse options.guard
      let name ← targetTable keyspace table
      orRefuse <| Statement.ofBuild operation options <| writeAll <|
        body name ++ ofGuard (guardFor requested operation)) =
        Except.ok statement ↔
      ∃ source, Source.ofParts keyspace table = .ok source ∧
        MadeFrom operation body source options statement := by
  simp only [bind_eq_ok_iff, orRefuse_eq_ok, targetTable_eq_ok, MadeFrom]
  constructor
  · rintro ⟨requested, valid, name, ⟨source, read, target⟩, made⟩
    exact ⟨source, read, name, target, requested, valid, made⟩
  · rintro ⟨source, read, name, target, requested, valid, made⟩
    exact ⟨requested, valid, name, ⟨source, read, target⟩, made⟩

private theorem updateRow_eq (named : Row.Named fields (column :: columns))
    (filtersNamed : Row.Named filters (condition :: conditions)) :
    updateRow keyspace table fields filters options = (do
      let requested ← orRefuse options.guard
      let name ← targetTable keyspace table
      orRefuse <| Statement.ofBuild .update options <| writeAll <|
        updateLayout name (column :: columns) (condition :: conditions)
          (guardFor requested .update)) := by
  rw [updateRow, Row.isEmpty_of_named named,
    Row.equalityFilter_of_named_cons filtersNamed,
    Row.assignments_of_named named]
  simp only [← updateText_eq (isEquality_and condition conditions)]
  rfl

theorem updateRow_eq_ok_iff (named : Row.Named fields (column :: columns))
    (filtersNamed : Row.Named filters (condition :: conditions)) :
    updateRow keyspace table fields filters options = .ok statement ↔
      ∃ source, Source.ofParts keyspace table = .ok source ∧
        MadeFrom .update
          (updateBody (column :: columns) (condition :: conditions)) source
          options statement := by
  rw [← madeFrom_of_steps, updateRow_eq named filtersNamed]
  rfl

private theorem deleteRow_eq
    (filtersNamed : Row.Named filters (condition :: conditions)) :
    deleteRow keyspace table filters options = (do
      let requested ← orRefuse options.guard
      let name ← targetTable keyspace table
      orRefuse <| Statement.ofBuild .delete options <| writeAll <|
        deleteLayout name (condition :: conditions)
          (guardFor requested .delete)) := by
  rw [deleteRow, Row.equalityFilter_of_named_cons filtersNamed]
  simp only [← deleteText_eq (isEquality_and condition conditions)]
  rfl

theorem deleteRow_eq_ok_iff
    (filtersNamed : Row.Named filters (condition :: conditions)) :
    deleteRow keyspace table filters options = .ok statement ↔
      ∃ source, Source.ofParts keyspace table = .ok source ∧
        MadeFrom .delete (deleteBody (condition :: conditions)) source options
          statement := by
  rw [← madeFrom_of_steps, deleteRow_eq filtersNamed]
  rfl

end Rows

/-! ## Queries for many rows -/

section Queries

variable {source : Source} {column condition : String × Value}
  {columns conditions : List (String × Value)} {requested : Option Guard}
  {options : Options} {statement : Statement}

private theorem updateAllText_ofRows {name : String}
    (target : source.tableName = .ok name) (requested : Option Guard) :
    (Query.ofRows source (column :: columns) condition conditions).updateAllText
        requested =
      writeAll (updateLayout name (column :: columns) (condition :: conditions)
        (guardFor requested .updateAll)) := by
  rw [← updateText_eq (isEquality_and condition conditions)]
  simp only [Query.updateAllText, Query.ofRows, target]
  rfl

private theorem deleteAllText_ofRows {name : String}
    (target : source.tableName = .ok name) {answer : Option Guard}
    (applies : guardFor requested .deleteAll = .ok answer) :
    (Query.ofRows source [] condition conditions).deleteAllText requested =
      writeAll (deleteLayout name (condition :: conditions) (.ok answer)) := by
  rw [← deleteText_eq (isEquality_and condition conditions)]
  simp only [Query.deleteAllText, Query.ofRows, target, applies]
  rfl

theorem Query.compile_eq_ok_iff {query : Query} {operation : Value}
    {known : Operation} (named : operation.operation? = some known) :
    query.compile operation options = .ok statement ↔
      ∃ requested, options.guard = .ok requested ∧
        Statement.ofBuild known options (query.textFor requested known) =
          .ok statement := by
  rw [compile, named]
  exact bind_eq_ok_iff

theorem compile_updateAll_eq_ok_iff {operation : Value}
    (named : operation.operation? = some .updateAll) :
    (Query.ofRows source (column :: columns) condition conditions).compile
        operation options = .ok statement ↔
      MadeFrom .updateAll
        (updateBody (column :: columns) (condition :: conditions)) source
        options statement := by
  rw [Query.compile_eq_ok_iff named, MadeFrom]
  cases target : source.tableName with
  | error cause =>
      have refused (requested : Option Guard) :
          (Query.ofRows source (column :: columns) condition conditions).textFor
            requested .updateAll = Build.refuse cause := by
        simp only [Query.textFor, Query.updateAllText, Query.ofRows, target]
        rfl
      simp [refused]
  | ok name =>
      simp only [Query.textFor, updateAllText_ofRows target, Except.ok.injEq,
        exists_eq_left']
      rfl

theorem compile_deleteAll_eq_ok_iff {operation : Value}
    (named : operation.operation? = some .deleteAll) :
    (Query.ofRows source [] condition conditions).compile operation options =
        .ok statement ↔
      MadeFrom .deleteAll (deleteBody (condition :: conditions)) source options
        statement := by
  rw [Query.compile_eq_ok_iff named, MadeFrom]
  cases target : source.tableName with
  | error cause =>
      have refused (requested : Option Guard) :
          (Query.ofRows source [] condition conditions).textFor requested
            .deleteAll = Build.refuse cause := by
        simp only [Query.textFor, Query.deleteAllText, Query.ofRows, target]
        rfl
      simp [refused]
  | ok name =>
      simp only [Except.ok.injEq, exists_eq_left']
      refine exists_congr fun requested => and_congr_right fun _ => ?_
      -- a refused guard ends the text before the filter here, and behind it
      -- where a row is removed; neither way gives a statement
      cases applies : guardFor requested .deleteAll with
      | error cause =>
          have refused : (Query.ofRows source [] condition conditions).textFor
              requested .deleteAll = Build.refuse cause := by
            simp only [Query.textFor, Query.deleteAllText, Query.ofRows, target,
              applies]
            rfl
          rw [refused, Statement.ofBuild_writeAll_eq_ok, flaws_append,
            flaws_ofGuard]
          simp [refusals]
      | ok answer =>
          rw [Query.textFor, deleteAllText_ofRows target applies]
          rfl

end Queries

/-! ## Both ways -/

private theorem content_eq_some_iff {ε : Type} {outcome : Except ε Statement}
    {content : String × List Value × Options} :
    outcome.toOption.map Statement.content = some content ↔
      ∃ statement, outcome = .ok statement ∧ statement.content = content := by
  cases outcome <;> simp [Except.toOption]

private theorem content_eq_of_madeFrom {operation other : Operation}
    {body : String → List Piece} {options : Options}
    {row : Except Failure Statement} {read : Reading Source}
    {bulk : Source → Except CompileError Statement}
    (rowMade : ∀ statement, row = .ok statement ↔
      ∃ source, read = .ok source ∧
        MadeFrom operation body source options statement)
    (bulkMade : ∀ source statement, bulk source = .ok statement ↔
      MadeFrom other body source options statement)
    (changes : operation ≠ .all) (otherChanges : other ≠ .all)
    (same : operation.guard = other.guard) :
    row.toOption.map Statement.content =
      read.toOption.bind fun source =>
        (bulk source).toOption.map Statement.content := by
  cases read with
  | error issues =>
      cases row with
      | error failure => rfl
      | ok statement =>
          obtain ⟨_, ⟨⟩, _⟩ := (rowMade statement).mp rfl
  | ok source =>
      ext content
      change _ ↔ (bulk source).toOption.map Statement.content = some content
      rw [content_eq_some_iff, content_eq_some_iff]
      simpa [rowMade, bulkMade] using
        exists_content_madeFrom changes otherChanges same

/-- A row is changed or removed exactly where the query for many rows is, and
both statements have the same text, values and options. -/
theorem rows_agree_with_queries {fields filters : Row}
    {column condition : String × Value}
    {columns conditions : List (String × Value)}
    (named : Row.Named fields (column :: columns))
    (filtersNamed : Row.Named filters (condition :: conditions))
    {changing removing : Value}
    (changes : changing.operation? = some .updateAll)
    (removes : removing.operation? = some .deleteAll)
    (keyspace table : Value) (options : Options) :
    ((updateRow keyspace table fields filters options).toOption.map
        Statement.content =
      (Source.ofParts keyspace table).toOption.bind fun source =>
        ((Query.ofRows source (column :: columns) condition conditions).compile
          changing options).toOption.map Statement.content) ∧
    ((deleteRow keyspace table filters options).toOption.map
        Statement.content =
      (Source.ofParts keyspace table).toOption.bind fun source =>
        ((Query.ofRows source [] condition conditions).compile removing
          options).toOption.map Statement.content) := by
  constructor
  · exact content_eq_of_madeFrom
      (fun _ => updateRow_eq_ok_iff named filtersNamed)
      (fun _ _ => compile_updateAll_eq_ok_iff changes)
      (by decide) (by decide) rfl
  · exact content_eq_of_madeFrom
      (fun _ => deleteRow_eq_ok_iff filtersNamed)
      (fun _ _ => compile_deleteAll_eq_ok_iff removes)
      (by decide) (by decide) rfl

def tagColumns : List (String × Value) :=
  [("u.tags", .list [.int 1, .int 2]), ("tags", .now)]

def tagConditions : List (String × Value) :=
  [("id", .tuple [.int 7]), ("u.id", .null)]

def tagStatement : Statement :=
  ⟨.update, "UPDATE app.users SET tags = ?, tags = ? " ++
      "WHERE id = ? AND id = ? AND id = ? IF EXISTS",
    [.list [.int 1, .int 2], .now, .null, .tuple [.int 7], .null], ifExists⟩

theorem rows_agree_with_queries_tags :
    ((Query.ofRows ⟨"users", some "app"⟩ tagColumns ("id", .null)
        tagConditions).compile (.text "update_all") ifExists).toOption.map
          Statement.content =
      some tagStatement.content := by
  have made : updateRow (.text "app") (.text "users")
      (Record.texts tagColumns) (Record.texts (("id", .null) :: tagConditions))
      ifExists =
        .ok tagStatement := by cbv
  have read : Source.ofParts (.text "app") (.text "users") =
      .ok ⟨"users", some "app"⟩ := by cbv
  have agree := (rows_agree_with_queries (Row.named_texts tagColumns)
    (Row.named_texts (("id", .null) :: tagConditions))
    (show (Value.text "update_all").operation? = some .updateAll by cbv)
    (show (Value.text "delete_all").operation? = some .deleteAll by cbv)
    (.text "app") (.text "users") ifExists).1
  rw [made, read] at agree
  exact agree.symm

end StructuredCql
