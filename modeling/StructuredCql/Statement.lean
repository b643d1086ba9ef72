import StructuredCql.Query.Reading
import StructuredCql.Statement.Clauses

/-!
# Statements

A statement is a text with marks and the values for the marks, in the order of
the text.  A query gives a statement for each of three operations: reading,
changing many rows and deleting many rows.
-/

namespace StructuredCql

open StructuredCql.Text

/-- Settings of a statement, which it hands back to the caller. -/
abbrev Options : Type := List (Value × Value)

structure Statement where
  operation : Operation
  text : String
  params : List Value
  options : Options

namespace Statement

def journalLine (statement : Statement) : String :=
  "DEBUG Compiled " ++ statement.operation.name ++ " statement with " ++
    toString statement.params.length ++ " parameter(s): " ++ statement.text

def ofBuild (operation : Operation) (options : Options)
    (build : Build String) : Except CompileError Statement :=
  match build.runWith .empty with
  | (.ok text, binder) => .ok ⟨operation, text, binder.params, options⟩
  | (.error cause, _) => .error cause

end Statement

def Options.guard (options : Options) :
    Except CompileError (Option Guard) :=
  match Guard.ofEntries options with
  | .ok guard => .ok guard
  | .error issues => .error (.invalidOptions issues)

namespace Query

def optionalClause (clause : α → Build String) :
    Option α → Build (List String)
  | none => pure []
  | some value => do
      let text ← clause value
      pure [text]

def listClause (clause : List α → Build String) :
    List α → Build (List String)
  | [] => pure []
  | items => do
      let text ← clause items
      pure [text]

def whereClause (filter : Expr) : Build String := do
  let condition ← filter.render
  pure ("WHERE " ++ condition)

def selectText (query : Query) : Build String := do
  let select ← selectClause query.selection
  let table ← Build.checked query.source.tableName
  let filter ← optionalClause whereClause query.filter
  let grouping ← listClause groupByClause query.grouping
  let ordering ← listClause orderByClause query.ordering
  let limit ← optionalClause limitClause query.limit
  let hint ← optionalClause
    (fun hint => Build.checked (hintClause hint)) query.writtenHint
  pure (joined " " ([select, "FROM " ++ table] ++ filter ++ grouping ++
    ordering ++ limit ++ hint))

/-- The clauses that an operation on many rows cannot carry. -/
def foreignClauses : Operation → List Clause
  | .deleteAll => [.select, .groupBy, .orderBy, .limit, .lock, .update]
  | _ => [.select, .groupBy, .orderBy, .limit, .lock]

/-- Refuses the first clause that the operation cannot carry.  A hint is looked
at first, so that a request for a lock is refused as such. -/
def checkClauses (query : Query) (operation : Operation) :
    Except CompileError Unit := do
  if let some hint := query.writtenHint then
    let _ ← hintClause hint
  match (foreignClauses operation).find? query.sets with
  | some clause => .error (.misplacedClause clause operation)
  | none => .ok ()

def updateAllText (query : Query) (requested : Option Guard) :
    Build String := do
  Build.checked (query.checkClauses .updateAll)
  if query.assignments.isEmpty then
    Build.refuse .noAssignments
  match query.filter with
  | none => Build.refuse .unfilteredUpdate
  | some filter =>
      let table ← Build.checked query.source.tableName
      let assignments ← assignmentList query.assignments
      let condition ← filter.render
      let guard ← Build.checked (guardFor requested .updateAll)
      pure (guarded
        ("UPDATE " ++ table ++ " SET " ++ assignments ++ " WHERE " ++ condition)
        guard)

/-- Without a filter the whole table is emptied, which no guard can go with. -/
def deleteAllText (query : Query) (requested : Option Guard) :
    Build String := do
  Build.checked (query.checkClauses .deleteAll)
  let table ← Build.checked query.source.tableName
  let guard ← Build.checked (guardFor requested .deleteAll)
  match query.filter, guard with
  | none, some guard => Build.refuse (.guardedTruncation guard)
  | none, none => pure ("TRUNCATE " ++ table)
  | some filter, guard =>
      let condition ← filter.render
      pure (guarded ("DELETE FROM " ++ table ++ " WHERE " ++ condition) guard)

def textFor (query : Query) (requested : Option Guard) :
    Operation → Build String
  | .all => query.selectText
  | .updateAll => query.updateAllText requested
  | .deleteAll => query.deleteAllText requested
  | operation => Build.refuse (.rowOperation operation)

end Query

def Value.operation? : Value → Option Operation
  | .text name => Operation.ofName? name
  | .word (.operation known) => some known
  | _ => none

def Value.noOperation (value : Value) : String :=
  value.display ++ " is not a valid Operation"

def Query.compile (query : Query) (operation : Value) (options : Options) :
    Except CompileError Statement := do
  match operation.operation? with
  | none => .error (.unknownOperation operation)
  | some operation =>
      let requested ← options.guard
      Statement.ofBuild operation options (query.textFor requested operation)

end StructuredCql
