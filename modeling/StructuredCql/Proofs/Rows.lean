import StructuredCql.Proofs.Binding
import StructuredCql.Proofs.Flaws
import StructuredCql.Proofs.Grammar.Filter
import StructuredCql.Proofs.Layout.Job
import StructuredCql.Proofs.Spelling.Query

/-!
# Rows with readable names

A row whose columns have readable names always gives its columns, its
assignments and its condition.  What is then wrong with the statement for a row
is wrong with one of the names, or with the guard that the options ask for.
-/

namespace StructuredCql

def equation (column : String × Value) : Expr :=
  .compare .equal (.column column.1) (.param column.2)

theorem isEquality_and (condition : String × Value)
    (conditions : List (String × Value)) :
    IsEquality (condition :: conditions)
      (.and (equation condition) (conditions.map equation)) :=
  ⟨_, _, rfl, rfl⟩

namespace Row

variable {row : Row} {columns : List (String × Value)}

theorem named_texts (columns : List (String × Value)) :
    Named (Record.texts columns) columns := by
  simp [Named, Record.texts, Value.readText]

theorem mapM_of_named {α : Type} (shape : Shape) (field : String)
    (make : String → Value → α) (named : Named row columns) :
    (row.mapM fun entry => do
      let column ← columnOf shape field entry.1
      pure (make column entry.2)) =
      .ok (columns.map fun column => make column.1 column.2) := by
  induction row generalizing columns with
  | nil =>
      cases columns with
      | nil => rfl
      | cons => cases named
  | cons entry rest ih =>
      cases columns with
      | nil => cases named
      | cons column columns =>
          simp only [Named, List.map_cons, List.cons.injEq, Prod.mk.injEq]
            at named
          obtain ⟨⟨read, same⟩, others⟩ := named
          rw [List.mapM_cons, columnOf_eq_ok.mpr read, ih others, same]
          rfl

theorem named_eq_ok (named : Named row columns) :
    row.named = .ok columns := by
  have made := mapM_of_named .column "col" Prod.mk named
  rwa [List.map_id'] at made

theorem assignments_of_named (named : Named row columns) :
    row.assignments = .ok (columns.map fun column =>
      .set column.1 (.param column.2)) :=
  mapM_of_named .setAssignment "set"
    (fun column value => Assignment.set column (.param value)) named

theorem isEmpty_of_named (named : Named row columns) :
    row.isEmpty = columns.isEmpty := by
  cases row <;> cases columns <;> first | rfl | cases named

theorem equalityFilter_of_named_cons {column : String × Value}
    (named : Named row (column :: columns)) :
    row.equalityFilter =
      .ok (some (.and (equation column) (columns.map equation))) := by
  have made := mapM_of_named .column "col"
    (fun column value => Expr.compare .equal (.column column) (.param value))
    named
  rw [equalityFilter, made]
  rfl

theorem equalityFilter_of_named (named : Named row columns) :
    row.equalityFilter = .ok none ∨
      ∃ filter, row.equalityFilter = .ok (some filter) ∧
        IsEquality columns filter := by
  cases columns with
  | nil =>
      obtain rfl : row = [] := by simpa using isEmpty_of_named named
      exact .inl rfl
  | cons column rest =>
      exact .inr ⟨_, equalityFilter_of_named_cons named,
        isEquality_and column rest⟩

theorem exists_mem_of_named {column : String × Value}
    (named : Named row columns) (member : column ∈ columns) :
    ∃ entry ∈ row, entry.2 = column.2 := by
  have isRead : (.ok column.1, column.2) ∈
      row.map fun entry => (entry.1.readText, entry.2) := by
    rw [named]
    exact List.mem_map.mpr ⟨column, member, rfl⟩
  obtain ⟨entry, isEntry, same⟩ := List.mem_map.mp isRead
  exact ⟨entry, isEntry, (Prod.mk.inj same).2⟩

end Row

namespace Piece

@[simp] theorem flaws_ofGuard (guard : Except CompileError (Option Guard)) :
    flaws (ofGuard guard) = refusals guard := by
  rcases guard with cause | _ | guard <;> rfl

@[simp] theorem carried_ofGuard (guard : Except CompileError (Option Guard)) :
    carried (ofGuard guard) = [] := by
  rcases guard with cause | _ | guard <;> rfl

theorem written_ofGuard_some (guard : Guard) :
    written "?" (ofGuard (.ok (some guard))) = " " ++ guard.clause := by
  simp [ofGuard, written, textWith]

@[simp] theorem flaws_insertedLayout (keys : List (String × KeyKind))
    (column : String) (value : Value) :
    flaws (insertedLayout keys column value) = [] := by
  cases value <;> rfl

@[simp] theorem flaws_equationLayout (column : String × Value) :
    flaws (equationLayout column) = refusals (columnName column.1) := by
  simp [equationLayout]

def nameFlaws (columns : List (String × Value)) : List CompileError :=
  columns.flatMap fun column => refusals (columnName column.1)

theorem nameFlaws_eq_nil_iff {entries : List (String × Value)} :
    nameFlaws entries = [] ↔
      ∀ entry ∈ entries, columnName entry.1 = .ok (unqualified entry.1) := by
  rw [nameFlaws, List.flatMap_eq_nil_iff]
  refine forall₂_congr fun entry _ => ?_
  constructor
  · intro accepted
    obtain ⟨column, found⟩ := exists_ok_of_refusals_eq_nil accepted
    rw [found, eq_unqualified_of_columnName found]
  · intro accepted
    rw [accepted]
    rfl

theorem flaws_insertBody (table : String) (keys : List (String × KeyKind))
    (columns : List (String × Value)) :
    flaws (insertBody table keys columns) = nameFlaws columns := by
  simp [insertBody, nameFlaws, List.flatMap_map]

theorem flaws_insertLayout (table : String) (keys : List (String × KeyKind))
    (columns : List (String × Value))
    (guard : Except CompileError (Option Guard)) :
    flaws (insertLayout table keys columns guard) =
      nameFlaws columns ++ refusals guard := by
  simp [insertLayout, flaws_insertBody]

theorem flaws_updateLayout (table : String)
    (columns filters : List (String × Value))
    (guard : Except CompileError (Option Guard)) :
    flaws (updateLayout table columns filters guard) =
      nameFlaws (columns ++ filters) ++ refusals guard := by
  simp [updateLayout, updateBody, conditionLayout, nameFlaws, List.flatMap_map]

theorem flaws_deleteLayout (table : String) (filters : List (String × Value))
    (guard : Except CompileError (Option Guard)) :
    flaws (deleteLayout table filters guard) =
      nameFlaws filters ++ refusals guard := by
  simp [deleteLayout, deleteBody, conditionLayout, nameFlaws, List.flatMap_map]

end Piece

/-! ## Guards -/

def Operation.guard : Operation → Guard
  | .insert => .notExists
  | _ => .exists

theorem guardFor_eq_ok {requested answer : Option Guard}
    {operation : Operation} (changes : operation ≠ .all) :
    guardFor requested operation = .ok answer ↔
      answer = requested ∧ ∀ guard ∈ requested, guard = operation.guard := by
  rcases requested with _ | (_ | _) <;> cases operation <;>
    simp_all [guardFor, Guard.appliesTo, Operation.guard, eq_comm]

namespace Options

/-- What options put behind the statement for an operation on rows, if they
are admitted. -/
def guardText? (operation : Operation) (options : Options) : Option String :=
  match (Record.find? "if" options).getD .null with
  | .null => some ""
  | .text name =>
      if name = operation.guard.name then
        some (" " ++ operation.guard.clause)
      else none
  | _ => none

theorem guard_eq_ok {options : Options}
    {requested : Option Guard} :
    options.guard = .ok requested ↔
      (Record.find? "if" options).getD .null =
        (requested.map fun guard => Value.text guard.name).getD .null := by
  have same : options.guard = .ok requested ↔
      Guard.ofEntries options = .ok requested := by
    unfold Options.guard
    cases Guard.ofEntries options <;> simp
  rw [same, Guard.ofEntries, Record.optional_eq_ok]
  simp only [Value.readOptional_eq_ok_iff, Value.readLiteral_eq_ok_iff,
    Guard.ofName?_eq_some_iff]
  cases Record.find? "if" options with
  | none => cases requested <;> simp
  | some asked =>
      cases requested with
      | none => simp
      | some guard =>
          suffices asked = .text guard.name → asked ≠ .null by simpa
          rintro rfl
          simp

theorem guardText?_eq_some {operation : Operation}
    (changes : operation ≠ .all) {options : Options} {suffix : String} :
    options.guardText? operation = some suffix ↔
      ∃ requested, options.guard = .ok requested ∧
        refusals (guardFor requested operation) = [] ∧
        suffix =
          Piece.written "?" (Piece.ofGuard (guardFor requested operation)) := by
  simp only [guard_eq_ok]
  unfold guardText?
  generalize (Record.find? "if" options).getD .null = asked
  constructor
  · intro found
    split at found
    · cases found
      exact ⟨none, rfl, rfl, rfl⟩
    · next name =>
      split at found
      · next same =>
        cases found
        have accepted : guardFor (some operation.guard) operation =
            .ok (some operation.guard) :=
          (guardFor_eq_ok changes).mpr ⟨rfl, by simp⟩
        exact ⟨some operation.guard, by simp [same], by rw [accepted]; rfl,
          by rw [accepted, Piece.written_ofGuard_some]⟩
      · cases found
    · cases found
  · rintro ⟨requested, rfl, admitted, rfl⟩
    obtain ⟨answer, accepted⟩ := exists_ok_of_refusals_eq_nil admitted
    obtain ⟨rfl, own⟩ := (guardFor_eq_ok changes).mp accepted
    rw [accepted]
    cases answer with
    | none => rfl
    | some guard =>
        obtain rfl := own guard rfl
        rw [Piece.written_ofGuard_some]
        simp

theorem exists_guarded_iff {operation known : Operation}
    (changes : operation ≠ .all) {options : Options} {body : List Piece}
    {statement : Statement} :
    (∃ requested, options.guard = .ok requested ∧
      Statement.ofBuild known options (Piece.writeAll
        (body ++ Piece.ofGuard (guardFor requested operation))) =
          .ok statement) ↔
      Piece.flaws body = [] ∧
        ∃ suffix, options.guardText? operation = some suffix ∧
          statement = ⟨known, Piece.written "?" body ++ suffix,
            Piece.carried body, options⟩ := by
  simp only [Statement.ofBuild_writeAll_eq_ok, Piece.flaws_append,
    Piece.flaws_ofGuard, Piece.written_append, Piece.carried_append,
    Piece.carried_ofGuard, List.append_nil, List.append_eq_nil_iff,
    guardText?_eq_some changes]
  constructor
  · rintro ⟨requested, valid, ⟨sound, admitted⟩, rfl⟩
    exact ⟨sound, _, ⟨requested, valid, admitted, rfl⟩, rfl⟩
  · rintro ⟨sound, _, ⟨requested, valid, admitted, rfl⟩, rfl⟩
    exact ⟨requested, valid, ⟨sound, admitted⟩, rfl⟩

end Options

end StructuredCql
