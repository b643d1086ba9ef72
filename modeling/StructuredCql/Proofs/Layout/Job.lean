import Mathlib
import StructuredCql.Proofs.Layout.Row
import StructuredCql.Proofs.Outcomes
import StructuredCql.Statement.Job

/-!
# The layout of statements

Every job has a layout if its names, options and declarations read.  The main
statement is that a statement that is made is the layout of its job, written
with a question mark for every mark, and binds the values of the marks in their
order.
-/

namespace StructuredCql

open Piece

namespace Job

/-- The pieces of the statement for a job, where its names, options and
declarations read. -/
inductive LaidOut : Job → List Piece → Prop
  | query {asked operation options known requested} :
      operation.operation? = some known →
      Options.guard options = .ok requested →
      LaidOut (.query asked operation options)
        (asked.layoutFor requested known)
  | insert {keyspace table fields generated options requested row
      declarations keys name} :
      Options.guard options = .ok requested →
      Row.Named fields row →
      Row.Named generated declarations →
      declaredKeys declarations = .ok keys →
      targetTable keyspace table = .ok name →
      LaidOut (.insert keyspace table fields generated options)
        (insertLayout name keys (insertedColumns keys row)
          (guardFor requested .insert))
  | update {keyspace table fields filters options requested columns
      conditions name} :
      Options.guard options = .ok requested →
      Row.Named fields columns →
      Row.Named filters conditions →
      targetTable keyspace table = .ok name →
      LaidOut (.update keyspace table fields filters options)
        (updateLayout name columns conditions (guardFor requested .update))
  | delete {keyspace table filters options requested conditions name} :
      Options.guard options = .ok requested →
      Row.Named filters conditions →
      targetTable keyspace table = .ok name →
      LaidOut (.delete keyspace table filters options)
        (deleteLayout name conditions (guardFor requested .delete))

end Job

/-! ## Made statements are laid out -/

theorem orRefuse_eq_ok {outcome : Except CompileError α} {result : α} :
    orRefuse outcome = .ok result ↔ outcome = .ok result := by
  cases outcome <;> simp [orRefuse]

structure Statement.IsWritten (statement : Statement) (pieces : List Piece) :
    Prop where
  sound : flaws pieces = []
  text_eq : statement.text = written "?" pieces
  params_eq : statement.params = carried pieces

@[simp] theorem Statement.ofBuild_refuse (operation : Operation)
    (options : Options) (cause : CompileError) :
    ofBuild operation options (Build.refuse cause) = .error cause := rfl

theorem Statement.ofBuild_writeAll (operation : Operation)
    (options : Options) (pieces : List Piece) :
    ofBuild operation options (writeAll pieces) =
      match (flaws pieces).head? with
      | none => .ok ⟨operation, written "?" pieces, carried pieces, options⟩
      | some cause => .error cause := by
  rw [ofBuild, runWith_writeAll]
  cases found : flaws pieces with
  | nil => simp [beforeFlaw_eq_self found, Binder.empty]
  | cons cause others => rfl

theorem Statement.ofBuild_writeAll_eq_ok {operation : Operation}
    {options : Options} {pieces : List Piece} {statement : Statement} :
    ofBuild operation options (writeAll pieces) = .ok statement ↔
      flaws pieces = [] ∧
        statement =
          ⟨operation, written "?" pieces, carried pieces, options⟩ := by
  rw [ofBuild_writeAll]
  cases flaws pieces with
  | nil => simp [eq_comm]
  | cons cause others => simp

theorem Statement.isWritten_of_ofBuild {operation : Operation}
    {options : Options} {pieces : List Piece} {statement : Statement}
    (made : ofBuild operation options (writeAll pieces) = .ok statement) :
    statement.IsWritten pieces := by
  obtain ⟨sound, rfl⟩ := ofBuild_writeAll_eq_ok.mp made
  exact ⟨sound, rfl, rfl⟩

namespace Job

private theorem laidOut_of_query {asked : Query} {operation : Value}
    {options : Options} {statement : Statement}
    (made : asked.compile operation options = .ok statement) :
    ∃ pieces, LaidOut (.query asked operation options) pieces ∧
      statement.IsWritten pieces := by
  unfold Query.compile at made
  split at made
  · cases made
  · next known named =>
    obtain ⟨requested, guard, made⟩ := bind_eq_ok_iff.mp made
    rw [Query.textFor_eq] at made
    exact ⟨_, .query named guard, Statement.isWritten_of_ofBuild made⟩

private theorem laidOut_of_insert {keyspace table : Value}
    {fields generated : Row} {options : Options} {statement : Statement}
    (made : insertRow keyspace table fields generated options =
      .ok statement) :
    ∃ pieces, LaidOut (.insert keyspace table fields generated options)
        pieces ∧ statement.IsWritten pieces := by
  obtain ⟨requested, guard, made⟩ := bind_eq_ok_iff.mp made
  obtain ⟨row, named, made⟩ := bind_eq_ok_iff.mp made
  obtain ⟨declarations, declared, made⟩ := bind_eq_ok_iff.mp made
  obtain ⟨keys, kinds, made⟩ := bind_eq_ok_iff.mp made
  dsimp only at made
  split at made
  · cases made
  · obtain ⟨name, target, made⟩ := bind_eq_ok_iff.mp made
    have made := orRefuse_eq_ok.mp made
    rw [insertText_eq] at made
    exact ⟨_, .insert (orRefuse_eq_ok.mp guard) (Row.named_of_named named)
      (Row.named_of_named declared) (orRefuse_eq_ok.mp kinds) target,
      Statement.isWritten_of_ofBuild made⟩

private theorem laidOut_of_update {keyspace table : Value}
    {fields filters : Row} {options : Options} {statement : Statement}
    (made : updateRow keyspace table fields filters options =
      .ok statement) :
    ∃ pieces, LaidOut (.update keyspace table fields filters options)
        pieces ∧ statement.IsWritten pieces := by
  obtain ⟨requested, guard, made⟩ := bind_eq_ok_iff.mp made
  dsimp only at made
  split at made
  · cases made
  · obtain ⟨found, condition, made⟩ := bind_eq_ok_iff.mp made
    cases found with
    | none => cases made
    | some filter =>
        obtain ⟨name, target, made⟩ := bind_eq_ok_iff.mp made
        obtain ⟨assignments, sets, made⟩ := bind_eq_ok_iff.mp made
        obtain ⟨conditions, constrained, isEquality⟩ :=
          Row.exists_named_of_equalityFilter condition
        obtain ⟨columns, named, rfl⟩ :=
          Row.exists_named_of_assignments sets
        have made := orRefuse_eq_ok.mp made
        rw [updateText_eq isEquality] at made
        exact ⟨_, .update (orRefuse_eq_ok.mp guard) named constrained target,
          Statement.isWritten_of_ofBuild made⟩

private theorem laidOut_of_delete {keyspace table : Value}
    {filters : Row} {options : Options} {statement : Statement}
    (made : deleteRow keyspace table filters options = .ok statement) :
    ∃ pieces, LaidOut (.delete keyspace table filters options) pieces ∧
      statement.IsWritten pieces := by
  obtain ⟨requested, guard, made⟩ := bind_eq_ok_iff.mp made
  obtain ⟨found, condition, made⟩ := bind_eq_ok_iff.mp made
  cases found with
  | none => cases made
  | some filter =>
      obtain ⟨name, target, made⟩ := bind_eq_ok_iff.mp made
      obtain ⟨conditions, constrained, isEquality⟩ :=
        Row.exists_named_of_equalityFilter condition
      have made := orRefuse_eq_ok.mp made
      rw [deleteText_eq isEquality] at made
      exact ⟨_, .delete (orRefuse_eq_ok.mp guard) constrained target,
        Statement.isWritten_of_ofBuild made⟩

theorem laidOut_of_compile {job : Job} {statement : Statement}
    (made : job.compile = .ok statement) :
    ∃ pieces, job.LaidOut pieces ∧ statement.IsWritten pieces := by
  cases job with
  | query => exact laidOut_of_query (orRefuse_eq_ok.mp made)
  | insert => exact laidOut_of_insert made
  | update => exact laidOut_of_update made
  | delete => exact laidOut_of_delete made

/-- A question mark of the text is a mark with a value of its own, or stands
in plain text or in a constant and has none. -/
theorem text_and_params_of_compile {job : Job} {statement : Statement}
    (made : job.compile = .ok statement) :
    ∃ pieces, job.LaidOut pieces ∧
      statement.text = written "?" pieces ∧
      statement.params = carried pieces ∧
      statement.text.toList.count '?' =
        (written "" pieces).toList.count '?' + statement.params.length := by
  obtain ⟨pieces, laidOut, isWritten⟩ := laidOut_of_compile made
  refine ⟨pieces, laidOut, isWritten.text_eq, isWritten.params_eq, ?_⟩
  rw [isWritten.text_eq, isWritten.params_eq, count_written]

def mixedUpdate : Query :=
  { source := ⟨"users", some "app"⟩
    selection := [], grouping := [], ordering := [], limit := none
    hint := some ""
    assignments := [.set "u.name" (.literal (.text "who's?")),
      .increment "visits" (.param (.int 2))]
    filter := some (.and
      (.membership (.column "id") [.param (.list [.int 1, .null])])
      [.fragment "f(\\?, ?)" [.mapping [(.text "param", .text "x?")]]]) }

def mixedUpdateText : String :=
  "UPDATE app.users SET name = 'who''s?', visits = visits + ?" ++
    " WHERE id IN (?,?) AND f(?, ?)"

theorem text_and_params_of_mixedUpdate :
    ∃ pieces, (query mixedUpdate (.text "update_all") []).LaidOut pieces ∧
      mixedUpdateText = written "?" pieces ∧
      [.int 2, .int 1, .null, .text "x?"] = carried pieces ∧
      6 = (written "" pieces).toList.count '?' + 4 := by
  have made : (query mixedUpdate (.text "update_all") []).compile =
      .ok ⟨.updateAll, mixedUpdateText,
        [.int 2, .int 1, .null, .text "x?"], []⟩ := by cbv
  exact text_and_params_of_compile made

end Job

end StructuredCql
