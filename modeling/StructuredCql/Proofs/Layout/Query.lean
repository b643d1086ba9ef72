import StructuredCql.Proofs.Layout
import StructuredCql.Statement

/-!
# The layout of queries

Each clause has a layout, made from the layouts of the expressions in it, and
the clauses of an operation make up the layout of a query for it.  A check
that leaves no text shows in a layout only where it fails.
-/

namespace StructuredCql

open StructuredCql.Text

theorem guarded_append (first second : String) (guard : Option Guard) :
    guarded (first ++ second) guard = first ++ guarded second guard := by
  cases guard with
  | none => rfl
  | some guard => simp only [guarded, String.append_assoc]

namespace Piece

/-- A check leaves no text. -/
def ofCheck : Except CompileError α → List Piece
  | .ok _ => []
  | .error cause => [.flaw cause]

def ofGuard : Except CompileError (Option Guard) → List Piece
  | .ok none => []
  | .ok (some guard) => [.plain (" " ++ guard.clause)]
  | .error cause => [.flaw cause]

theorem writeAll_ofCheck_append (outcome : Except CompileError α)
    (rest : List Piece) :
    writeAll (ofCheck outcome ++ rest) =
      (do let _ ← Build.checked outcome; writeAll rest) := by
  cases outcome with
  | ok _ => simp only [ofCheck, List.nil_append, Build.checked_ok, pure_bind]
  | error cause =>
      simp only [ofCheck, List.cons_append, List.nil_append, writeAll,
        write_flaw, Build.checked_error, Build.refuse_bind]

theorem writeAll_append_ofGuard (pieces : List Piece)
    (guard : Except CompileError (Option Guard)) :
    writeAll (pieces ++ ofGuard guard) = (do
      let text ← writeAll pieces
      let guard ← Build.checked guard
      pure (guarded text guard)) := by
  rw [writeAll_append]
  congr 1
  funext text
  rcases guard with cause | _ | guard
  · simp only [ofGuard, writeAll_singleton, write_flaw, Build.refuse_bind,
      Build.checked_error]
  · simp only [ofGuard, writeAll, pure_bind, String.append_empty,
      Build.checked_ok, guarded]
  · simp only [ofGuard, writeAll_singleton, write_plain, pure_bind,
      Build.checked_ok, guarded, String.append_assoc]

end Piece

open Piece

/-! ## Clauses -/

def selectLayout : List Expr → List Piece
  | [] => [.plain "SELECT *"]
  | items => .plain "SELECT " :: separated ", " (items.map Expr.layout)

def whereLayout (filter : Expr) : List Piece :=
  .plain "WHERE " :: filter.layout

def groupByLayout (items : List Expr) : List Piece :=
  .plain "GROUP BY " :: separated ", " (items.map Expr.layout)

def OrderItem.layout (item : OrderItem) : List Piece :=
  match item.direction with
  | .ascending => item.operand.layout
  | .descending => item.operand.layout ++ [.plain " DESC"]

def orderByLayout (items : List OrderItem) : List Piece :=
  .plain "ORDER BY " :: separated ", " (items.map OrderItem.layout)

def limitLayout (count : Nat) : List Piece :=
  if Whole.isWritable count then [.plain ("LIMIT " ++ toString count)]
  else [.flaw .unwritableNumber]

def hintLayout (hint : String) : List Piece := [ofText (hintClause hint)]

def Assignment.layout : Assignment → List Piece
  | .set column value =>
      ofText (columnName column) :: .plain " = " :: value.layout
  | .increment column amount =>
      ofText (columnName column) :: .plain " = " ::
        ofText (columnName column) :: .plain " + " :: amount.layout

theorem selectClause_eq (items : List Expr) :
    selectClause items = writeAll (selectLayout items) := by
  unfold selectClause selectLayout
  split
  · rw [writeAll_singleton, write_plain]
  · simp only [writeAll, write_plain, writeAll_separated, pure_bind,
      bind_assoc, Expr.renderAll_eq]

theorem whereClause_eq (filter : Expr) :
    Query.whereClause filter = writeAll (whereLayout filter) := by
  simp only [Query.whereClause, whereLayout, writeAll, write_plain, pure_bind,
    Expr.render_eq_writeAll]

theorem groupByClause_eq (items : List Expr) :
    groupByClause items = writeAll (groupByLayout items) := by
  simp only [groupByClause, groupByLayout, writeAll, write_plain, pure_bind,
    bind_assoc, writeAll_separated, Expr.renderAll_eq]

theorem OrderItem.render_eq (item : OrderItem) :
    item.render = writeAll item.layout := by
  rw [render, layout, Expr.render_eq_writeAll]
  cases item.direction with
  | ascending => simp only [bind_pure]
  | descending =>
      simp only [writeAll_append, writeAll_singleton, write_plain, pure_bind]

theorem orderByClause_eq (items : List OrderItem) :
    orderByClause items = writeAll (orderByLayout items) := by
  have texts : orderItems items =
      (items.map OrderItem.layout).mapM writeAll := by
    induction items with
    | nil => rfl
    | cons item rest ih =>
        simp only [orderItems, OrderItem.render_eq, ih, List.map_cons,
          List.mapM_cons]
  simp only [orderByClause, orderByLayout, texts, writeAll, write_plain,
    pure_bind, bind_assoc, writeAll_separated]

theorem limitClause_eq (count : Nat) :
    limitClause count = writeAll (limitLayout count) := by
  unfold limitClause limitLayout
  split
  · rw [writeAll_singleton, write_plain]
  · rw [writeAll_singleton, write_flaw]

theorem Assignment.render_eq (assignment : Assignment) :
    assignment.render = writeAll assignment.layout := by
  cases assignment with
  | set column value =>
      simp only [render, layout, writeAll, write_ofText, write_plain,
        pure_bind, bind_assoc, Expr.render_eq_writeAll, String.append_assoc]
  | increment column amount =>
      rw [render, layout]
      cases columnName column with
      | ok name =>
          simp only [ofText, writeAll, write_plain, Build.checked_ok,
            pure_bind, bind_assoc, Expr.render_eq_writeAll,
            String.append_assoc]
      | error cause =>
          simp only [ofText, writeAll, write_flaw, Build.checked_error,
            Build.refuse_bind]

theorem assignmentList_eq (assignments : List Assignment) :
    assignmentList assignments =
      writeAll (separated ", " (assignments.map Assignment.layout)) := by
  have texts : assignmentTexts assignments =
      (assignments.map Assignment.layout).mapM writeAll := by
    induction assignments with
    | nil => rfl
    | cons assignment rest ih =>
        simp only [assignmentTexts, Assignment.render_eq, ih, List.map_cons,
          List.mapM_cons]
  rw [assignmentList, texts, writeAll_separated]

/-! ## Queries -/

namespace Query

def listLayout (layout : List α → List Piece) : List α → List (List Piece)
  | [] => []
  | items => [layout items]

theorem optionalClause_eq {clause : α → Build String} {layout : α → List Piece}
    (same : ∀ value, clause value = writeAll (layout value))
    (value : Option α) :
    optionalClause clause value =
      (value.map layout).toList.mapM writeAll := by
  cases value with
  | none => rfl
  | some value =>
      simp only [optionalClause, same, Option.map_some, Option.toList_some,
        List.mapM_cons, List.mapM_nil, pure_bind]

theorem listClause_eq {clause : List α → Build String}
    {layout : List α → List Piece}
    (same : ∀ items, clause items = writeAll (layout items))
    (items : List α) :
    listClause clause items = (listLayout layout items).mapM writeAll := by
  cases items with
  | nil => rfl
  | cons item rest =>
      simp only [listClause, listLayout, same, List.mapM_cons, List.mapM_nil,
        pure_bind]

def readingLayout (query : Query) : List Piece :=
  separated " " ([selectLayout query.selection,
      [.plain "FROM ", ofText query.source.tableName]] ++
    (query.filter.map whereLayout).toList ++
    listLayout groupByLayout query.grouping ++
    listLayout orderByLayout query.ordering ++
    (query.limit.map limitLayout).toList ++
    (query.writtenHint.map hintLayout).toList)

def updateAllLayout (query : Query) (requested : Option Guard) : List Piece :=
  ofCheck (query.checkClauses .updateAll) ++
    (if query.assignments.isEmpty then [.flaw .noAssignments] else []) ++
    match query.filter with
    | none => [.flaw .unfilteredUpdate]
    | some filter =>
        .plain "UPDATE " :: ofText query.source.tableName :: .plain " SET " ::
          (separated ", " (query.assignments.map Assignment.layout) ++
            .plain " WHERE " :: filter.layout ++
            ofGuard (guardFor requested .updateAll))

def deleteAllLayout (query : Query) (requested : Option Guard) : List Piece :=
  ofCheck (query.checkClauses .deleteAll) ++
    match query.filter with
    | none =>
        .plain "TRUNCATE " :: ofText query.source.tableName ::
          match guardFor requested .deleteAll with
          | .ok none => []
          | .ok (some guard) => [.flaw (.guardedTruncation guard)]
          | .error cause => [.flaw cause]
    | some filter =>
        .plain "DELETE FROM " :: ofText query.source.tableName ::
          (ofCheck (guardFor requested .deleteAll) ++
            .plain " WHERE " :: filter.layout ++
            ofGuard (guardFor requested .deleteAll))

def layoutFor (query : Query) (requested : Option Guard) :
    Operation → List Piece
  | .all => query.readingLayout
  | .updateAll => query.updateAllLayout requested
  | .deleteAll => query.deleteAllLayout requested
  | operation => [.flaw (.rowOperation operation)]

theorem selectText_eq (query : Query) :
    query.selectText = writeAll query.readingLayout := by
  have hint (hint : String) :
      Build.checked (hintClause hint) = writeAll (hintLayout hint) := by
    rw [hintLayout, writeAll_singleton, write_ofText]
  simp only [selectText, readingLayout, writeAll_separated, List.mapM_append,
    List.mapM_cons, selectClause_eq, optionalClause_eq whereClause_eq,
    listClause_eq groupByClause_eq, listClause_eq orderByClause_eq,
    optionalClause_eq limitClause_eq,
    optionalClause_eq hint, writeAll, write_plain, write_ofText, pure_bind,
    bind_assoc, String.append_empty, List.cons_append, List.nil_append]

theorem updateAllText_eq (query : Query) (requested : Option Guard) :
    query.updateAllText requested =
      writeAll (query.updateAllLayout requested) := by
  rw [updateAllText, updateAllLayout, List.append_assoc,
    writeAll_ofCheck_append]
  congr 1
  funext _
  cases query.assignments.isEmpty with
  | true =>
      simp only [if_true, List.cons_append, List.nil_append, writeAll,
        write_flaw, Build.refuse_bind]
  | false =>
      simp only [Bool.false_eq_true, if_false, List.nil_append]
      cases query.filter with
      | none => simp only [writeAll_singleton, write_flaw]
      | some filter =>
          simp only [← List.cons_append, writeAll_append_ofGuard]
          simp only [List.cons_append, writeAll, writeAll_append, write_plain,
            write_ofText, pure_bind, bind_assoc, assignmentList_eq,
            Expr.render_eq_writeAll, String.append_assoc]

theorem deleteAllText_eq (query : Query) (requested : Option Guard) :
    query.deleteAllText requested =
      writeAll (query.deleteAllLayout requested) := by
  rw [deleteAllText, deleteAllLayout, writeAll_ofCheck_append]
  congr 1
  funext _
  cases query.filter with
  | none =>
      simp only [writeAll, write_plain, write_ofText, pure_bind, bind_assoc]
      congr 1
      funext table
      rcases guardFor requested .deleteAll with cause | _ | guard
      · simp only [Build.checked_error, writeAll_singleton, write_flaw,
          Build.refuse_bind]
      · simp only [Build.checked_ok, writeAll, pure_bind, String.append_empty]
      · simp only [Build.checked_ok, writeAll_singleton, write_flaw, pure_bind,
          Build.refuse_bind]
  | some filter =>
      simp only [writeAll, write_plain, write_ofText, pure_bind, bind_assoc,
        List.append_assoc, List.cons_append, writeAll_ofCheck_append]
      congr 1
      funext table
      cases guardFor requested .deleteAll with
      | error cause =>
          simp only [Build.checked_error, Build.refuse_bind]
      | ok guard =>
          rw [writeAll_append_ofGuard]
          simp only [Build.checked_ok, pure_bind, bind_assoc,
            Expr.render_eq_writeAll, String.append_assoc, guarded_append]

theorem textFor_eq (query : Query) (requested : Option Guard)
    (operation : Operation) :
    query.textFor requested operation =
      writeAll (query.layoutFor requested operation) := by
  cases operation with
  | all => exact query.selectText_eq
  | updateAll => exact query.updateAllText_eq requested
  | deleteAll => exact query.deleteAllText_eq requested
  | insert | update | delete =>
      simp only [textFor, layoutFor, writeAll_singleton, write_flaw]

end Query

end StructuredCql
