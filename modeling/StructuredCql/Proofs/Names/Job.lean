import StructuredCql.Proofs.BulkRows
import StructuredCql.Proofs.InsertedRows
import StructuredCql.Proofs.Lexemes.Job
import StructuredCql.Proofs.Names.Expr

/-!
# Names in statements

The main statement says what is taken for a name in each place where a caller
gives one, and that a statement from expressions without fragments is composed
of the names of its job: those of its columns, types, table and keyspace, in
the order of the text.  So a character that no name has is in none of them,
apart from a line break at the end.
-/

namespace StructuredCql

open StructuredCql.Text
open Piece

/-! ## Clauses -/

def Source.names (source : Source) : List String :=
  (source.keyspace.filter (· ≠ "")).toList ++ [source.table]

theorem Composition.of_tableName {source : Source} {text : String}
    (written : source.tableName = .ok text) :
    Composition text source.names := by
  obtain ⟨isTable, ⟨void, rfl⟩ | ⟨keyspace, found, isKeyspace, rfl⟩⟩ :=
    Source.tableName_eq_ok_iff.mp written
  · have noKeyspace : source.keyspace.filter (· ≠ "") = none := by
      rcases void with void | void <;> rw [void] <;> rfl
    rw [Source.names, noKeyspace]
    exact .ofName isTable
  · have notEmpty : keyspace ≠ "" := by
      rintro rfl
      exact absurd (isIdentifier_iff.mpr isKeyspace) (by decide)
    have kept : source.keyspace.filter (· ≠ "") = some keyspace := by
      rw [found, Option.filter_some, if_pos (by simpa using notEmpty)]
    rw [Source.names, kept, String.append_assoc]
    exact .name isKeyspace (.fixed (by decide) (.ofName isTable))

theorem Composition.of_hintClause {hint text : String}
    (written : hintClause hint = .ok text) : Composition text [] := by
  unfold hintClause at written
  split at written
  · next accepted =>
    cases written
    simpa using Composition.hint accepted .nil
  · cases written

def Assignment.names : Assignment → List String
  | .set column value => unqualified column :: value.names
  | .increment column amount =>
      unqualified column :: unqualified column :: amount.names

namespace Piece.Composes

theorem clause {keyword : String} {layout : α → List Piece}
    {names : α → List String} {items : List α}
    (listed : keyword ∈ fixedTexts)
    (all : ∀ item ∈ items, Composes (layout item) (names item)) :
    Composes (.plain keyword :: Piece.separated ", " (items.map layout))
      (items.flatMap names) :=
  .plain_cons listed (.separated_map (by decide) all)

theorem select {items : List Expr}
    (free : ∀ item ∈ items, item.FragmentFree) :
    Composes (selectLayout items) (items.flatMap Expr.names) := by
  unfold selectLayout
  split
  · exact .plain_cons (by decide) .nil
  · exact .clause (by decide) fun item member =>
      Expr.composes_layout (free item member)

theorem orderItem {item : OrderItem} (free : item.operand.FragmentFree) :
    Composes item.layout item.operand.names := by
  have operand := Expr.composes_layout free
  unfold OrderItem.layout
  cases item.direction with
  | ascending => exact operand
  | descending =>
      simpa using operand.append_plain_cons
        (by decide : " DESC" ∈ fixedTexts) .nil

theorem limit (count : Nat) : Composes (limitLayout count) [] := by
  unfold limitLayout
  split
  · have number : Composition (toString count) [] := by
      simpa using Composition.count count .nil
    exact .text_cons (.fixed (by decide : "LIMIT " ∈ fixedTexts) number) .nil
  · exact .flaw_cons

theorem hint (hint : String) : Composes (hintLayout hint) [] :=
  .ofText_cons (fun _ => .of_hintClause) .nil

theorem assignment {assignment : Assignment}
    (free : assignment.operand.FragmentFree) :
    Composes assignment.layout assignment.names := by
  have operand := Expr.composes_layout free
  cases assignment with
  | set column value =>
      exact .ofText_cons (fun _ => .of_columnName) <|
        .plain_cons (by decide) operand
  | increment column amount =>
      exact .ofText_cons (fun _ => .of_columnName) <|
        .plain_cons (by decide) <|
        .ofText_cons (fun _ => .of_columnName) <|
        .plain_cons (by decide) operand

theorem ofCheck_append {outcome : Except CompileError α} {rest : List Piece}
    {names : List String} (right : Composes rest names) :
    Composes (ofCheck outcome ++ rest) names := by
  cases outcome with
  | ok _ => exact right
  | error cause => exact .flaw_cons

theorem append_ofGuard {pieces : List Piece} {names : List String}
    (left : Composes pieces names)
    (guard : Except CompileError (Option Guard)) :
    Composes (pieces ++ ofGuard guard) names := by
  rcases guard with cause | _ | guard
  · have refused : Composes [.flaw cause] [] := flaw_cons
    simpa [ofGuard] using left.append refused
  · simpa [ofGuard] using left
  · have listed : " " ++ guard.clause ∈ fixedTexts := by
      cases guard <;> decide
    simpa [ofGuard] using left.append_plain_cons listed .nil

end Piece.Composes

/-! ## Queries -/

namespace Query

def names (query : Query) : Operation → List String
  | .all =>
      query.selection.flatMap Expr.names ++ query.source.names ++
        query.filter.toList.flatMap Expr.names ++
        query.grouping.flatMap Expr.names ++
        query.ordering.flatMap fun item => item.operand.names
  | .updateAll =>
      query.source.names ++ query.assignments.flatMap Assignment.names ++
        query.filter.toList.flatMap Expr.names
  | .deleteAll =>
      query.source.names ++ query.filter.toList.flatMap Expr.names
  | _ => []

private theorem forall₂_list (layout : List α → List Piece)
    {names : α → List String} {items : List α}
    (all : Composes (layout items) (items.flatMap names)) :
    ∃ lists, List.Forall₂ Composes (listLayout layout items) lists ∧
      lists.flatten = items.flatMap names := by
  cases items with
  | nil => exact ⟨[], .nil, rfl⟩
  | cons item rest => exact ⟨[_], .cons all .nil, List.append_nil _⟩

theorem composes_readingLayout {query : Query}
    (free : ∀ operand ∈ query.written .all, operand.FragmentFree) :
    Composes query.readingLayout (query.names .all) := by
  simp only [written, List.mem_append, List.mem_map, Option.mem_toList] at free
  have select : Composes (selectLayout query.selection) _ :=
    .select fun item member => free item (by simp [member])
  have table : Composes [.plain "FROM ", ofText query.source.tableName] _ :=
    .plain_cons (by decide) (.ofText_cons (fun _ => .of_tableName) .nil)
  have filter : List.Forall₂ Composes
      (query.filter.toList.map whereLayout)
      (query.filter.toList.map Expr.names) :=
    Composes.forall₂_map fun filter member => .plain_cons (by decide) <|
      Expr.composes_layout
        (free filter (by simp [Option.mem_toList.mp member]))
  obtain ⟨groupingNames, grouping, groupingFlat⟩ :=
    forall₂_list groupByLayout <|
      Composes.clause (by decide : "GROUP BY " ∈ fixedTexts)
        fun item (member : item ∈ query.grouping) =>
          Expr.composes_layout (free item (by simp [member]))
  obtain ⟨orderingNames, ordering, orderingFlat⟩ :=
    forall₂_list orderByLayout <|
      Composes.clause (by decide : "ORDER BY " ∈ fixedTexts)
        fun item (member : item ∈ query.ordering) =>
          .orderItem (free item.operand (.inr ⟨item, member, rfl⟩))
  have limit := Composes.forall₂_map fun count
      (_ : count ∈ query.limit.toList) => Composes.limit count
  have hint := Composes.forall₂_map fun hint
      (_ : hint ∈ query.writtenHint.toList) => Composes.hint hint
  have all := Composes.separated (by decide : " " ∈ fixedTexts) <|
    List.rel_append (List.rel_append (List.rel_append (List.rel_append
      (List.rel_append (.cons select (.cons table .nil)) filter) grouping)
      ordering) limit) hint
  simpa [readingLayout, names, groupingFlat, orderingFlat,
    Option.toList_map, ← List.flatMap_def] using all

theorem composes_updateAllLayout {query : Query}
    (free : ∀ operand ∈ query.written .updateAll, operand.FragmentFree)
    (requested : Option Guard) :
    Composes (query.updateAllLayout requested) (query.names .updateAll) := by
  simp only [written, List.mem_append, List.mem_map, Option.mem_toList] at free
  unfold updateAllLayout
  rw [List.append_assoc]
  refine .ofCheck_append ?_
  cases query.assignments.isEmpty with
  | true => exact .flaw_cons
  | false =>
      cases found : query.filter with
      | none => exact .flaw_cons
      | some filter =>
          have sets := Composes.separated_map (by decide : ", " ∈ fixedTexts)
            fun assignment (member : assignment ∈ query.assignments) =>
              .assignment (free assignment.operand
                (.inl ⟨assignment, member, rfl⟩))
          have both := sets.append_plain_cons
            (by decide : " WHERE " ∈ fixedTexts)
            (Expr.composes_layout (free filter (.inr found)))
          have order : query.names .updateAll = query.source.names ++
              (query.assignments.flatMap Assignment.names ++
                filter.names) := by
            simp [names, found]
          rw [order]
          exact .plain_cons (by decide) <|
            .ofText_cons (fun _ => .of_tableName) <|
            .plain_cons (by decide) (both.append_ofGuard _)

theorem composes_deleteAllLayout {query : Query}
    (free : ∀ operand ∈ query.written .deleteAll, operand.FragmentFree)
    (requested : Option Guard) :
    Composes (query.deleteAllLayout requested) (query.names .deleteAll) := by
  simp only [written, Option.mem_toList] at free
  unfold deleteAllLayout
  refine .ofCheck_append ?_
  cases found : query.filter with
  | none =>
      rw [names, found]
      refine .plain_cons (by decide) (.ofText_cons (fun _ => .of_tableName) ?_)
      split
      · exact .nil
      · exact .flaw_cons
      · exact .flaw_cons
  | some filter =>
      have condition := Composes.plain_cons
        (by decide : " WHERE " ∈ fixedTexts)
        (Expr.composes_layout (free filter found))
      have order : query.names .deleteAll =
          query.source.names ++ filter.names := by
        simp [names, found]
      rw [order]
      refine .plain_cons (by decide) ?_
      refine .ofText_cons (fun _ => .of_tableName) ?_
      rw [List.append_assoc]
      exact .ofCheck_append (condition.append_ofGuard _)

theorem composes_layoutFor {query : Query} {operation : Operation}
    (free : ∀ operand ∈ query.written operation, operand.FragmentFree)
    (requested : Option Guard) :
    Composes (query.layoutFor requested operation)
      (query.names operation) := by
  cases operation with
  | all => exact composes_readingLayout free
  | updateAll => exact composes_updateAllLayout free requested
  | deleteAll => exact composes_deleteAllLayout free requested
  | insert | update | delete => exact .flaw_cons

end Query

/-! ## Rows -/

theorem Composition.of_targetTable {keyspace table : Value} {source : Source}
    {name : String} (read : Source.ofParts keyspace table = .ok source)
    (target : targetTable keyspace table = .ok name) :
    Composition name source.names := by
  obtain ⟨other, same, written⟩ := targetTable_eq_ok.mp target
  rw [read] at same
  cases same
  exact .of_tableName written

namespace Piece.Composes

private theorem between {before table after : String} {names : List String}
    (opening : before ∈ fixedTexts) (name : Composition table names)
    (closing : after ∈ fixedTexts) :
    Composition (before ++ table ++ after) names := by
  have whole := ((Composition.ofFixed opening).append name).append
    (.ofFixed closing)
  simpa using whole

theorem columns {separator : String}
    {layout : String × Value → List Piece} (listed : separator ∈ fixedTexts)
    (each : ∀ column, Composes (layout column) [unqualified column.1])
    (columns : List (String × Value)) :
    Composes (Piece.separated separator (columns.map layout))
      (columns.map fun column => unqualified column.1) := by
  have all := separated_map listed fun column (_ : column ∈ columns) =>
    each column
  rwa [← List.map_eq_flatMap] at all

theorem equation (column : String × Value) :
    Composes (equationLayout column) [unqualified column.1] :=
  .ofText_cons (fun _ => .of_columnName)
    (.plain_cons (by decide) (.mark column.2))

theorem inserted (keys : List (String × KeyKind)) (column : String)
    (value : Value) : Composes (insertedLayout keys column value) [] := by
  unfold insertedLayout
  split
  · refine .plain_cons ?_ .nil
    generalize (keys.lookup column).getD .binaryId = kind
    cases kind <;> decide
  · exact .mark _

theorem insertion {table : String} {tableNames : List String}
    (name : Composition table tableNames) (keys : List (String × KeyKind))
    (columns : List (String × Value))
    (guard : Except CompileError (Option Guard)) :
    Composes (insertLayout table keys columns guard)
      (tableNames ++ columns.map fun column => unqualified column.1) := by
  have names := Composes.columns (by decide : ", " ∈ fixedTexts)
    (fun column => .ofText_cons (fun _ => .of_columnName) .nil) columns
  have values := separated_map_nil (by decide : ", " ∈ fixedTexts)
    fun column (_ : column ∈ columns) => inserted keys column.1 column.2
  have closed := values.append_plain_cons (by decide : ")" ∈ fixedTexts) .nil
  have both := names.append_plain_cons
    (by decide : ") VALUES (" ∈ fixedTexts) closed
  have opened := between (by decide : "INSERT INTO " ∈ fixedTexts) name
    (by decide : " (" ∈ fixedTexts)
  refine append_ofGuard ?_ guard
  simpa [insertBody] using text_cons opened both

theorem change {table : String} {tableNames : List String}
    (name : Composition table tableNames)
    (columns filters : List (String × Value))
    (guard : Except CompileError (Option Guard)) :
    Composes (updateLayout table columns filters guard)
      (tableNames ++ ((columns ++ filters).map fun column =>
        unqualified column.1)) := by
  have opened := between (by decide : "UPDATE " ∈ fixedTexts) name
    (by decide : " SET " ∈ fixedTexts)
  have sets := Composes.columns (by decide : ", " ∈ fixedTexts) equation
    columns
  have conditions := Composes.columns (by decide : " AND " ∈ fixedTexts)
    equation filters
  have both := sets.append_plain_cons (by decide : " WHERE " ∈ fixedTexts)
    conditions
  refine append_ofGuard ?_ guard
  rw [List.map_append]
  exact text_cons opened both

theorem deletion {table : String} {tableNames : List String}
    (name : Composition table tableNames) (filters : List (String × Value))
    (guard : Except CompileError (Option Guard)) :
    Composes (deleteLayout table filters guard)
      (tableNames ++ filters.map fun column => unqualified column.1) :=
  append_ofGuard
    (text_cons (between (by decide) name (by decide))
      (.columns (by decide) equation filters)) guard

end Piece.Composes

/-! ## Statements -/

namespace Job

/-- The names that the statement for a job is written with, in the order of
its text. -/
inductive Naming : Job → List String → Prop
  | query {asked operation options known} :
      operation.operation? = some known →
      Naming (.query asked operation options) (asked.names known)
  | insert {keyspace table fields generated options source row
      declarations} :
      Source.ofParts keyspace table = .ok source →
      Row.Named fields row →
      Row.Named generated declarations →
      Naming (.insert keyspace table fields generated options)
        (source.names ++ InsertedRow.columns declarations row)
  | update {keyspace table fields filters options source columns
      conditions} :
      Source.ofParts keyspace table = .ok source →
      Row.Named fields columns →
      Row.Named filters conditions →
      Naming (.update keyspace table fields filters options)
        (source.names ++ (columns ++ conditions).map fun column =>
          unqualified column.1)
  | delete {keyspace table filters options source conditions} :
      Source.ofParts keyspace table = .ok source →
      Row.Named filters conditions →
      Naming (.delete keyspace table filters options)
        (source.names ++ conditions.map fun column => unqualified column.1)

theorem exists_composes_of_laidOut {job : Job} {pieces : List Piece}
    (free : ∀ operand ∈ job.written, operand.FragmentFree)
    (laidOut : job.LaidOut pieces) :
    ∃ names, job.Naming names ∧ Composes pieces names := by
  cases laidOut with
  | query known _ =>
      rw [written, known] at free
      exact ⟨_, .query known, Query.composes_layoutFor free _⟩
  | insert _ named declared kinds target =>
      obtain ⟨source, read, _⟩ := targetTable_eq_ok.mp target
      refine ⟨_, .insert read named declared, ?_⟩
      rw [InsertedRow.insertedColumns_eq kinds]
      exact .insertion (.of_targetTable read target) _ _ _
  | update _ named constrained target =>
      obtain ⟨source, read, _⟩ := targetTable_eq_ok.mp target
      exact ⟨_, .update read named constrained,
        .change (.of_targetTable read target) _ _ _⟩
  | delete _ constrained target =>
      obtain ⟨source, read, _⟩ := targetTable_eq_ok.mp target
      exact ⟨_, .delete read constrained,
        .deletion (.of_targetTable read target) _ _⟩

theorem exists_composition_of_compile {job : Job} {statement : Statement}
    (free : ∀ operand ∈ job.written, operand.FragmentFree)
    (made : job.compile = .ok statement) :
    ∃ names, job.Naming names ∧ Composition statement.text names := by
  obtain ⟨pieces, laidOut, isWritten⟩ := laidOut_of_compile made
  obtain ⟨names, naming, composes⟩ := exists_composes_of_laidOut free laidOut
  rw [isWritten.text_eq]
  exact ⟨names, naming, composes isWritten.sound⟩

end Job

/-- Names are taken as they are, whatever they are for: a name of its own, a
column with or without a qualifier, or a table with or without a keyspace.
They are all that a caller puts into the text of a statement in that way, and
a line break at the end is the only character that is no part of a name. -/
theorem names_in_statements (role : NameRole) (name : String)
    (source : Source) (job : Job) :
    (∀ text, checkedName role name = .ok text ↔
      Nameable name.toList ∧ text = name) ∧
    (Value.text name).checkedName role = checkedName role name ∧
    (∀ text, columnName name = .ok text ↔
      Nameable name.toList ∧ text = name ∨
        ∃ qualifier column : String, name = qualifier ++ "." ++ column ∧
          Nameable qualifier.toList ∧ Nameable column.toList ∧
          text = column) ∧
    (∀ text, source.tableName = .ok text ↔
      Nameable source.table.toList ∧
        ((source.keyspace = none ∨ source.keyspace = some "") ∧
            text = source.table ∨
          ∃ keyspace, source.keyspace = some keyspace ∧
            Nameable keyspace.toList ∧
            text = keyspace ++ "." ++ source.table)) ∧
    Value.tableName ((source.keyspace.map .text).getD .null)
      (.text source.table) = source.tableName ∧
    (∀ statement,
      (∀ operand ∈ job.written, operand.FragmentFree) →
      job.compile = .ok statement →
      ∃ names, job.Naming names ∧ Composition statement.text names ∧
        ∀ name ∈ names, Nameable name.toList) ∧
    ∀ text, IsName text ↔ Nameable text ∧ '\n' ∉ text := by
  refine ⟨fun _ => checkedName_eq_ok_iff, Value.checkedName_text role name,
    fun _ => columnName_eq_ok_iff, fun _ => Source.tableName_eq_ok_iff,
    Value.tableName_text source.keyspace source.table, ?_,
    fun _ => isName_iff⟩
  intro statement free made
  obtain ⟨names, naming, composition⟩ :=
    job.exists_composition_of_compile free made
  exact ⟨names, naming, composition, composition.nameable⟩

def castSearch : Query :=
  { source := ⟨"users", some "app"⟩
    selection := [.cast (.column "u.age") "int"]
    filter := none, grouping := [], ordering := [], limit := none
    hint := none, assignments := [] }

theorem names_in_castSearch :
    Composition "SELECT cast(age as int) FROM app.users"
      ["age", "int", "app", "users"] := by
  have made : (Job.query castSearch (.text "all") []).compile =
      .ok ⟨.all, "SELECT cast(age as int) FROM app.users", [], []⟩ := by cbv
  have free : ∀ operand ∈
      (Job.query castSearch (.text "all") []).written,
      operand.FragmentFree := by
    intro operand member
    cases List.mem_singleton.mp member
    refine .intro rfl fun part member => ?_
    cases List.mem_singleton.mp member
    exact .intro rfl (by simp [Expr.parts])
  obtain ⟨-, -, -, -, -, written, -⟩ :=
    names_in_statements .identifier "age" castSearch.source
      (.query castSearch (.text "all") [])
  obtain ⟨names, naming, composition, _⟩ := written _ free made
  cases naming with
  | query known =>
    cases known
    have column : unqualified "u.age" = "age" := by cbv
    simpa [Query.names, castSearch, Expr.names_eq, Expr.leadingNames,
      Expr.trailingNames, Expr.parts, Source.names, Option.filter, column]
      using composition

theorem names_with_lineBreak :
    checkedName .identifier "id\n" = .ok "id\n" ∧
      (Job.delete .null (.text "t") [(.text "u.id\n", .int 1)] []).compile =
        .ok ⟨.delete, "DELETE FROM t WHERE id\n = ?", [.int 1], []⟩ ∧
      ¬ IsName "id\n".toList := by
  refine ⟨by cbv, by cbv, fun isName => ?_⟩
  have := isName.characters '\n' (by decide)
  revert this
  decide

end StructuredCql
