import Mathlib
import StructuredCql.Proofs.Layout.Job
import StructuredCql.Proofs.LongNumbers
import StructuredCql.Proofs.Reports
import StructuredCql.Proofs.Rows
import StructuredCql.Proofs.Spelling.Json
import StructuredCql.Proofs.Writable.Query
import StructuredCql.Statement.Job

/-!
# The classes of failures

A request for a statement fails with an error of parsing or of compilation.
What is left are numbers that cannot be written: a plan may hold one, and an
unknown operation or kind of keys may be one, which then cannot be shown.
-/

namespace StructuredCql

open CompileError (IsReported)

def Failure.IsCompilation (failure : Failure) : Prop :=
  ∃ category, failure.errorClass = .compilation category

theorem Failure.isCompilation_of_isReported {cause : CompileError}
    (reported : cause.IsReported) : (Failure.refused cause).IsCompilation := by
  obtain ⟨report, found⟩ := Option.isSome_iff_exists.mp reported
  exact ⟨report.category, by rw [errorClass, found]⟩

theorem Failure.errorClass_of_not_isReported {cause : CompileError}
    (unreported : ¬cause.IsReported) :
    (Failure.refused cause).errorClass = .value := by
  rw [errorClass, Option.not_isSome_iff_eq_none.mp unreported]

theorem CompileError.isReported_unknownOperation {value : Value} :
    (unknownOperation value).IsReported ↔ value.isWritable := by
  simp [IsReported, report?, showing]

theorem CompileError.isReported_unknownKeyKind {value : Value} :
    (unknownKeyKind value).IsReported ↔ value.isWritable := by
  simp [IsReported, report?, showing]

theorem orRefuse_failsOnly {α : Type} {outcome : Except CompileError α}
    {admits : Failure → Prop}
    (all : FailsOnly (fun cause => admits (.refused cause)) outcome) :
    FailsOnly admits (orRefuse outcome) := by
  cases outcome with
  | error cause => exact .error (all cause rfl)
  | ok result => exact .ok result

theorem orRefuse_isCompilation {α : Type} {outcome : Except CompileError α}
    (all : FailsOnly IsReported outcome) :
    FailsOnly Failure.IsCompilation (orRefuse outcome) :=
  orRefuse_failsOnly fun cause refused =>
    Failure.isCompilation_of_isReported (all cause refused)

theorem Statement.ofBuild_failsOnly (operation : Operation) (options : Options)
    {build : Build String} (refuses : build.RefusesOnly IsReported) :
    FailsOnly IsReported (ofBuild operation options build) := by
  have outcome := refuses .empty
  unfold ofBuild
  split
  · exact .ok _
  · next found =>
    rw [found] at outcome
    exact .error (outcome _ rfl)

/-! ## Plans -/

/-- A value that is asked for by its name, has no such name, and cannot be
shown for a number of too many digits in it. -/
def IsUnshowable {α : Type} (named? : Value → Option α) (value : Value) :
    Prop :=
  named? value = none ∧ value.isWritable = false

theorem isCompilation_or_isUnshowable {α : Type} {named? : Value → Option α}
    {value : Value} {cause : CompileError} (unknown : named? value = none)
    (shows : cause.IsReported ↔ value.isWritable) :
    (Failure.refused cause).IsCompilation ∨
      (Failure.refused cause).errorClass = .value ∧
        IsUnshowable named? value := by
  by_cases writable : value.isWritable
  · exact .inl (Failure.isCompilation_of_isReported (shows.mpr writable))
  · exact .inr ⟨Failure.errorClass_of_not_isReported fun reported =>
      writable (shows.mp reported), unknown, by simpa using writable⟩

def PlanFailure (plan : String) (operation : Value) (failure : Failure) :
    Prop :=
  failure.errorClass = .parse ∨ failure.IsCompilation ∨
    failure.errorClass = .value ∧
      ((∃ count, Whole.longest < count ∧
          Json.HoldsWhole plan.toList count) ∨
        IsUnshowable Value.operation? operation)

theorem Query.writable_of_ofPlan {plan : String} {query : Query}
    (read : ofPlan plan = .ok query) : query.Writable := by
  unfold ofPlan at read
  split at read
  · cases read
  · cases read
  · next value accepted =>
    split at read
    · next found =>
      cases read
      exact writable_of_ofValue (Json.isJson_of_read accepted)
        (Json.isWritable_of_read accepted) found
    · cases read

theorem Query.ofPlan_failsOnly (plan : String) (operation : Value) :
    FailsOnly (PlanFailure plan operation) (ofPlan plan) := by
  unfold ofPlan
  split
  · exact .error (.inl rfl)
  · next count refused =>
    exact .error (.inr (.inr ⟨rfl, .inl ⟨count,
      Json.holdsWhole_of_read refused⟩⟩))
  · split
    · exact .ok _
    · exact .error (.inl rfl)

theorem Query.compile_failsOnly {query : Query} (writable : query.Writable)
    (plan : String) (operation : Value) (options : Options) :
    FailsOnly (PlanFailure plan operation)
      (orRefuse (query.compile operation options)) := by
  unfold compile
  split
  · next unknown =>
    refine .error ?_
    rcases isCompilation_or_isUnshowable unknown
        CompileError.isReported_unknownOperation with
      compilation | ⟨isValue, unshowable⟩
    · exact .inr (.inl compilation)
    · exact .inr (.inr ⟨isValue, .inr unshowable⟩)
  · next known _ =>
    have reported := options.guard_failsOnly.bind fun requested _ =>
      Statement.ofBuild_failsOnly known options
        (textFor_refusesOnly writable requested known)
    exact fun failure refused =>
      .inr (.inl (orRefuse_isCompilation reported failure refused))

theorem compilePlan_failsOnly (plan : String) (operation : Value)
    (options : Options) :
    FailsOnly (PlanFailure plan operation)
      (compilePlan plan operation options) :=
  (Query.ofPlan_failsOnly plan operation).bind fun _ read =>
    Query.compile_failsOnly (Query.writable_of_ofPlan read) plan operation
      options

/-! ## Rows -/

def InsertFailure (declared : Row) (failure : Failure) : Prop :=
  failure.IsCompilation ∨ failure.errorClass = .value ∧
    ∃ declaration ∈ declared, IsUnshowable KeyKind.ofValue? declaration.2

theorem declaredKeys_failsOnly {generated : Row}
    {declarations : List (String × Value)}
    (named : Row.Named generated declarations) :
    FailsOnly (InsertFailure generated)
      (orRefuse (declaredKeys declarations)) := by
  refine orRefuse_failsOnly ((FailsOnly.mapM ?_).bind fun _ _ => .ok _)
  intro declaration member
  split
  · exact .ok _
  · next unknown =>
    obtain ⟨entry, isEntry, same⟩ := Row.exists_mem_of_named named member
    refine .error ?_
    rcases isCompilation_or_isUnshowable unknown
        CompileError.isReported_unknownKeyKind with
      compilation | ⟨isValue, unshowable⟩
    · exact .inl compilation
    · exact .inr ⟨isValue, entry, isEntry, same ▸ unshowable⟩

theorem targetTable_failsOnly {keyspace table : Value} {name : String}
    {keyspaceName : Option String} (tableText : table.readText = .ok name)
    (keyspaceText : keyspace.readOptionalText = .ok keyspaceName) :
    FailsOnly Failure.IsCompilation (targetTable keyspace table) := by
  have read : Source.ofParts keyspace table = .ok ⟨name, keyspaceName⟩ :=
    Record.readDefaulted_eq_ok.mpr
      ⟨table, name, keyspaceName, ⟨rfl, tableText⟩, keyspaceText, rfl, rfl⟩
  rw [targetTable, read]
  exact orRefuse_isCompilation (Source.tableName_failsOnly _)

namespace Piece

theorem row_refusesOnly {pieces : List Piece}
    {columns : List (String × Value)} {requested : Option Guard}
    {operation : Operation}
    (same : flaws pieces =
      nameFlaws columns ++ refusals (guardFor requested operation)) :
    (writeAll pieces).RefusesOnly IsReported := by
  refine writeAll_refusesOnly fun cause member => ?_
  rw [same, List.mem_append] at member
  rcases member with isName | isGuard
  · obtain ⟨column, _, refused⟩ := List.mem_flatMap.mp isName
    exact columnName_failsOnly column.1 cause (mem_refusals.mp refused)
  · exact guardFor_failsOnly requested operation cause
      (mem_refusals.mp isGuard)

end Piece

section Requests

variable {keyspace table : Value} {name : String} {keyspaceName : Option String}
  (tableText : table.readText = .ok name)
  (keyspaceText : keyspace.readOptionalText = .ok keyspaceName)
  {fields others : Row} {columns otherColumns : List (String × Value)}
  (named : Row.Named fields columns)
  (othersNamed : Row.Named others otherColumns) (options : Options)

include tableText keyspaceText othersNamed

theorem deleteRow_failsOnly :
    FailsOnly Failure.IsCompilation
      (deleteRow keyspace table others options) := by
  refine (orRefuse_isCompilation options.guard_failsOnly).bind
    fun requested _ => ?_
  rcases Row.equalityFilter_of_named othersNamed with
    found | ⟨filter, found, same⟩
  · rw [found]
    exact .error (Failure.isCompilation_of_isReported rfl)
  · rw [found]
    refine (targetTable_failsOnly tableText keyspaceText).bind
      fun target _ =>
        orRefuse_isCompilation (Statement.ofBuild_failsOnly _ _ ?_)
    rw [deleteText_eq same]
    exact Piece.row_refusesOnly (Piece.flaws_deleteLayout _ _ _)

include named

theorem updateRow_failsOnly :
    FailsOnly Failure.IsCompilation
      (updateRow keyspace table fields others options) := by
  refine (orRefuse_isCompilation options.guard_failsOnly).bind
    fun requested _ => ?_
  split
  · exact .error (Failure.isCompilation_of_isReported rfl)
  rcases Row.equalityFilter_of_named othersNamed with
    found | ⟨filter, found, same⟩
  · rw [found]
    exact .error (Failure.isCompilation_of_isReported rfl)
  · rw [found, Row.assignments_of_named named]
    refine (targetTable_failsOnly tableText keyspaceText).bind
      fun target _ =>
        orRefuse_isCompilation (Statement.ofBuild_failsOnly _ _ ?_)
    rw [updateText_eq same]
    exact Piece.row_refusesOnly (Piece.flaws_updateLayout _ _ _ _)

theorem insertRow_failsOnly :
    FailsOnly (InsertFailure others)
      (insertRow keyspace table fields others options) := by
  unfold insertRow
  rw [Row.named_eq_ok named, Row.named_eq_ok othersNamed]
  -- Only the declared kinds of keys can fail in another way.
  have compilation {α : Type} {outcome : Except Failure α}
      (all : FailsOnly Failure.IsCompilation outcome) :
      FailsOnly (InsertFailure others) outcome :=
    fun failure failed => .inl (all failure failed)
  refine (compilation (orRefuse_isCompilation options.guard_failsOnly)).bind
    fun requested _ => ?_
  refine (declaredKeys_failsOnly othersNamed).bind fun keys _ => ?_
  refine compilation ?_
  dsimp only
  split
  · exact .error (Failure.isCompilation_of_isReported rfl)
  · refine (targetTable_failsOnly tableText keyspaceText).bind
      fun target _ =>
        orRefuse_isCompilation (Statement.ofBuild_failsOnly _ _ ?_)
    rw [insertText_eq]
    exact Piece.row_refusesOnly (Piece.flaws_insertLayout _ _ _ _)

end Requests

/-! ## All requests -/

/-- A request for a plan fails with an error of parsing or of compilation, or
for a number in the plan or the operation.  A request for a row with texts for
its names fails with an error of compilation, or, if it is an insertion, for a
number in a kind of keys. -/
theorem failures_have_classes (options : Options) :
    (∀ plan operation, FailsOnly (PlanFailure plan operation)
      (compilePlan plan operation options)) ∧
    ∀ {keyspace table : Value} {fields others : Row}
      {columns otherColumns : List (String × Value)},
      (∃ name, table.readText = .ok name) →
      (∃ name, keyspace.readOptionalText = .ok name) →
      Row.Named fields columns → Row.Named others otherColumns →
      FailsOnly (InsertFailure others)
        (insertRow keyspace table fields others options) ∧
      FailsOnly Failure.IsCompilation
        (updateRow keyspace table fields others options) ∧
      FailsOnly Failure.IsCompilation
        (deleteRow keyspace table others options) := by
  refine ⟨fun plan operation => compilePlan_failsOnly plan operation options,
    ?_⟩
  rintro keyspace table fields others columns otherColumns ⟨name, tableText⟩
    ⟨keyspaceName, keyspaceText⟩ named othersNamed
  exact ⟨insertRow_failsOnly tableText keyspaceText named othersNamed options,
    updateRow_failsOnly tableText keyspaceText named othersNamed options,
    deleteRow_failsOnly tableText keyspaceText othersNamed options⟩

theorem failures_have_classes_serialKey :
    ∃ failure, insertRow .null (.text "t") [] [(.text "id", .text "serial")]
        [] = .error failure ∧ failure.IsCompilation := by
  have rows := ((failures_have_classes []).2
    ⟨"t", show (Value.text "t").readText = _ from rfl⟩
    ⟨none, show Value.null.readOptionalText = _ from rfl⟩
    (show Row.Named [] [] from rfl)
    (show Row.Named [(.text "id", .text "serial")] [("id", .text "serial")]
      from rfl)).1
  have failed : insertRow .null (.text "t") []
      [(.text "id", .text "serial")] [] =
      .error (.refused (.unknownKeyKind (.text "serial"))) := rfl
  rcases rows _ failed with compilation | ⟨_, entry, member, _, unwritable⟩
  · exact ⟨_, failed, compilation⟩
  · cases List.mem_singleton.mp member
    simp [Value.isWritable] at unwritable

def smallPlan : String := "\x7b\"FROM\": \x7b\"table\": \"t\"\x7d\x7d"

/-- A limit of too many digits for an operation, and one for a kind of keys,
with a plan that has no number in it. -/
theorem value_failures_of_oversizedLimit :
    (∃ failure,
      compilePlan smallPlan (.limit Whole.leastUnwritable) [] =
          .error failure ∧
        failure.errorClass = .value ∧
        ¬∃ count, Whole.longest < count ∧
          Json.HoldsWhole smallPlan.toList count) ∧
    ∃ failure,
      insertRow .null (.text "t") []
          [(.text "id", .limit Whole.leastUnwritable)] [] = .error failure ∧
        failure.errorClass = .value := by
  have unwritable : ¬(Value.limit Whole.leastUnwritable).isWritable := by
    simp [Value.isWritable, Whole.isWritable]
  constructor
  · refine ⟨.refused (.unknownOperation (.limit Whole.leastUnwritable)), ?_, ?_,
      ?_⟩
    · have read : Query.ofPlan smallPlan = .ok
          { source := ⟨"t", none⟩, selection := [], filter := none
            grouping := [], ordering := [], limit := none, hint := none
            assignments := [] } := by cbv
      rw [compilePlan, read]
      rfl
    · exact Failure.errorClass_of_not_isReported fun reported => unwritable
        (CompileError.isReported_unknownOperation.mp reported)
    · rintro ⟨count, long, holds⟩
      have short : smallPlan.toList.length ≤ Whole.longest := by decide
      have := holds.le_length
      omega
  · exact ⟨.refused (.unknownKeyKind (.limit Whole.leastUnwritable)), rfl,
      Failure.errorClass_of_not_isReported fun reported => unwritable
        (CompileError.isReported_unknownKeyKind.mp reported)⟩

end StructuredCql
