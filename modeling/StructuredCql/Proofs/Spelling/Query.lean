import Mathlib
import StructuredCql.Proofs.Spelling.Expr
import StructuredCql.Proofs.Spelling.Json
import StructuredCql.Statement.Job

/-!
# Spellings of queries

The records of a query are read as they are spelled, part by part, and so is
the query.  A plan therefore gives the statement of the query that it spells,
whichever of the spellings it takes.
-/

namespace StructuredCql

/-- A reader goes by a way of spelling: what is spelled is read, and data as
JSON holds it is a spelling of what is read from it. -/
structure ReadsSpelling {α : Type} (read : Value → Reading α)
    (spelling : Bool → α → Value → Prop) : Prop where
  read_eq_ok : ∀ lax {item value}, spelling lax item value →
    read value = .ok item
  spelling : ∀ {item value}, value.IsJson → read value = .ok item →
    spelling true item value

/-! ## Single values, lists and what may be missing -/

theorem Value.readOptional_eq_ok_iff {α : Type} {read : Value → Reading α}
    {value : Value} {item : Option α} :
    value.readOptional read = .ok item ↔
      (value = .null ∧ item = none) ∨
      (value ≠ .null ∧
        ∃ inner, read value = .ok inner ∧ some inner = item) := by
  cases value with
  | null => simp [readOptional, eq_comm]
  | _ => simp [readOptional, Reading.map_eq_ok]

theorem Value.readLiteral_eq_ok_iff {α : Type} {ofName? : String → Option α}
    {value : Value} {item : α} :
    value.readLiteral ofName? = .ok item ↔
      ∃ name, value = .text name ∧ ofName? name = some item := by
  cases value with
  | text name =>
      rw [readLiteral]
      cases found : ofName? name <;> simp [found, Reading.fail]
  | _ => simp [readLiteral, Reading.fail]

theorem Value.readOptionalText_eq (value : Value) :
    value.readOptionalText = value.readOptional readText := by
  cases value <;> rfl

namespace ReadsSpelling

variable {α : Type} {read : Value → Reading α}
  {spelling : Bool → α → Value → Prop}

theorem text : ReadsSpelling Value.readText fun _ => TextSpelling where
  read_eq_ok := by
    rintro _ _ _ rfl
    rfl
  spelling json read := json.readText_eq_ok read

theorem expr : ReadsSpelling Expr.ofValue Expr.Spelling where
  read_eq_ok _ _ _ spelled := Expr.readFrom_of_spelling spelled
  spelling json read := json.recovered.operand _ read

theorem count : ReadsSpelling Value.readCount CountSpelling where
  read_eq_ok := by
    rintro lax count value (rfl | ⟨_, read⟩)
    · have notNegative : ¬ (count : Int) < 0 := by omega
      simp [Value.readCount, Value.readInteger, notNegative]
    · exact read
  spelling _ read := .inr ⟨rfl, read⟩

theorem direction : ReadsSpelling (Value.readLiteral Direction.ofName?)
    fun _ direction => TextSpelling direction.name where
  read_eq_ok := by
    rintro _ direction _ rfl
    cases direction <;> rfl
  spelling := by
    intro direction value _ held
    obtain ⟨name, rfl, found⟩ := Value.readLiteral_eq_ok_iff.mp held
    exact congrArg Value.text (Direction.ofName?_eq_some_iff.mp found)

theorem list (spells : ReadsSpelling read spelling) :
    ReadsSpelling (Value.readList read) fun lax =>
      ListSpelling (spelling lax) where
  read_eq_ok := by
    rintro lax items _ ⟨values, each, rfl⟩
    have held : List.Forall₂ (fun item value => read value = .ok item) items
        values := each.imp fun _ _ spelled => spells.read_eq_ok _ spelled
    exact Reading.items_map_eq_ok_iff.mpr held
  spelling := by
    intro items value json held
    cases json with
    | list each =>
        have read := Reading.items_map_eq_ok_iff.mp held
        exact ⟨_, forall₂_imp_of_forall_mem each read
          fun _ _ json held => spells.spelling json held, rfl⟩
    | _ => cases held

theorem optional (spells : ReadsSpelling read spelling)
    (refused : ∀ item, read .null ≠ .ok item) :
    ReadsSpelling (Value.readOptional read) fun lax =>
      OptionalSpelling (spelling lax) where
  read_eq_ok := by
    intro lax item value spelled
    rw [Value.readOptional_eq_ok_iff]
    cases item with
    | none => exact .inl ⟨spelled, rfl⟩
    | some item =>
        have held := spells.read_eq_ok _ spelled
        refine .inr ⟨?_, item, held, rfl⟩
        rintro rfl
        exact refused item held
  spelling := by
    intro item value json held
    rcases Value.readOptional_eq_ok_iff.mp held with
      ⟨missing, rfl⟩ | ⟨_, inner, readInner, rfl⟩
    · exact missing
    · exact spells.spelling json readInner

end ReadsSpelling

/-! ## Records -/

theorem Record.isJson_of_find? {entries : List (Value × Value)} {name : String}
    {value : Value} (json : (Value.mapping entries).IsJson)
    (found : Record.find? name entries = some value) : value.IsJson := by
  cases json with
  | mapping distinct each =>
      exact each _ ((find?_texts_eq_some_iff distinct).mp found)

theorem Record.spelled_of_isJson {slots : List (String × Option Value)}
    {entries : List (Value × Value)} (json : (Value.mapping entries).IsJson)
    (distinct : (slots.map Prod.fst).Nodup)
    (found : slots.Forall fun slot => Record.find? slot.1 entries = slot.2)
    (closed : Record.closed entries (slots.map Prod.fst) = .ok ()) :
    Record.Spelled slots (.mapping entries) := by
  cases json with
  | mapping fieldsDistinct each =>
      exact spelled_of_found distinct fieldsDistinct found closed

namespace ReadsSpelling

variable {α : Type} {read : Value → Reading α}
  {spelling : Bool → α → Value → Prop} {isDefault : Prop} {item : α}
  {entries : List (Value × Value)} {name : String}

theorem holds_read (spells : ReadsSpelling read spelling) (lax : Bool)
    {slot : Option Value}
    (held : Slot.Holds isDefault (spelling lax item) slot)
    (found : Record.find? name entries = slot) :
    Slot.Holds isDefault (fun value => read value = .ok item)
      (Record.find? name entries) :=
  held.of_eq found fun _ spelled => spells.read_eq_ok _ spelled

theorem holds_spelling (spells : ReadsSpelling read spelling)
    (json : (Value.mapping entries).IsJson)
    (held : Slot.Holds isDefault (fun value => read value = .ok item)
      (Record.find? name entries)) :
    Slot.Holds isDefault (spelling true item) (Record.find? name entries) := by
  cases found : Record.find? name entries with
  | none =>
      rw [found] at held
      exact held
  | some value =>
      rw [found] at held
      exact spells.spelling (Record.isJson_of_find? json found) held

theorem optionalText : ReadsSpelling Value.readOptionalText
    fun _ => OptionalSpelling TextSpelling := by
  have same : Value.readOptionalText = Value.readOptional Value.readText :=
    funext Value.readOptionalText_eq
  rw [same]
  exact text.optional fun _ held => by cases held

theorem optionalExpr : ReadsSpelling (Value.readOptional Expr.ofValue)
    fun lax => OptionalSpelling (Expr.Spelling lax) :=
  expr.optional fun _ held => by cases held

theorem source : ReadsSpelling Source.ofValue fun _ => Source.Spelling where
  read_eq_ok := by
    rintro _ source _ ⟨keyspace, held, record⟩
    obtain ⟨entries, rfl, ⟨foundTable, foundKeyspace⟩, closed⟩ :=
      record.exists_entries (by simp)
    exact Record.readDefaulted_eq_ok.mpr ⟨_, _, _, ⟨foundTable, rfl⟩,
      optionalText.holds_read false held foundKeyspace, closed, rfl⟩
  spelling := by
    intro source value json held
    cases value with
    | mapping entries =>
        obtain ⟨value, table, keyspace, ⟨found, read⟩, slot, closed, rfl⟩ :=
          Record.readDefaulted_eq_ok.mp held
        obtain rfl := text.spelling (Record.isJson_of_find? json found) read
        exact ⟨_, optionalText.holds_spelling json slot,
          Record.spelled_of_isJson json (by simp) ⟨found, rfl⟩ closed⟩
    | source => cases json
    | _ => cases held

theorem orderItem : ReadsSpelling OrderItem.ofValue OrderItem.Spelling where
  read_eq_ok := by
    rintro lax item _ ⟨part, slot, spelled, held, record⟩
    obtain ⟨entries, rfl, ⟨foundOperand, foundDirection⟩, closed⟩ :=
      record.exists_entries (by simp)
    exact Record.readDefaulted_eq_ok.mpr
      ⟨_, _, _, ⟨foundOperand, expr.read_eq_ok _ spelled⟩,
        direction.holds_read lax held foundDirection, closed, rfl⟩
  spelling := by
    intro item value json held
    cases value with
    | mapping entries =>
        obtain ⟨part, operand, direct, ⟨found, read⟩, slot, closed, rfl⟩ :=
          Record.readDefaulted_eq_ok.mp held
        have spelled := expr.spelling (Record.isJson_of_find? json found) read
        exact ⟨part, _, spelled, direction.holds_spelling json slot,
          Record.spelled_of_isJson json (by simp) ⟨found, rfl⟩ closed⟩
    | orderItem => cases json
    | _ => cases held

theorem limit : ReadsSpelling readLimit LimitSpelling where
  read_eq_ok := by
    rintro lax number _ ⟨counted, spelled, record⟩
    obtain ⟨entries, rfl, found, closed⟩ := record.exists_entries (by simp)
    exact Record.read_eq_ok.mpr ⟨Record.required_eq_ok.mpr
      ⟨counted, found, count.read_eq_ok _ spelled⟩, closed⟩
  spelling := by
    intro number value json held
    cases value with
    | mapping entries =>
        obtain ⟨read, closed⟩ := Record.read_eq_ok.mp held
        obtain ⟨counted, found, read⟩ := Record.required_eq_ok.mp read
        have spelled := count.spelling (Record.isJson_of_find? json found) read
        exact ⟨counted, spelled,
          Record.spelled_of_isJson json (by simp) found closed⟩
    | limit => cases json
    | _ => cases held

theorem optionalLimit : ReadsSpelling (Value.readOptional readLimit)
    fun lax => OptionalSpelling (LimitSpelling lax) :=
  limit.optional fun _ held => by cases held

theorem group : ReadsSpelling
    (fun value => Expr.ofValue (positionalGroup value))
    GroupSpelling where
  read_eq_ok := by
    rintro lax operand value (spelled | ⟨position, rfl, rfl⟩)
    · have held := expr.read_eq_ok _ spelled
      cases value with
      | int position => cases held
      | _ => exact held
    · rfl
  spelling := by
    intro operand value json held
    cases value with
    | int position =>
        cases held
        exact .inr ⟨position, rfl, rfl⟩
    | _ => exact .inl (expr.spelling json held)

theorem groups : ReadsSpelling
    (fun value => (positionalGroups value).readList Expr.ofValue)
    fun lax => ListSpelling (GroupSpelling lax) where
  read_eq_ok := by
    intro lax operands value spelled
    have held := group.list.read_eq_ok _ spelled
    obtain ⟨values, _, rfl⟩ := spelled
    rw [← held, positionalGroups]
    simp [Value.readList, Value.elements?, Value.items?, Function.comp_def]
  spelling := by
    intro operands value json held
    apply group.list.spelling json
    rw [← held]
    cases json with
    | list each =>
        simp [positionalGroups, Value.readList, Value.elements?, Value.items?,
          Function.comp_def]
    | _ => rfl

private theorem exists_assignment {columnName valueName : String}
    {make : String → Expr → Assignment} {change : Assignment}
    (different : columnName ≠ valueName)
    (json : (Value.mapping entries).IsJson)
    (held : Assignment.ofEntries entries columnName valueName make =
      .ok change) :
    ∃ column operand part, change = make column operand ∧
      operand.Spelling true part ∧
      Record.Spelled [(columnName, some (.text column)),
        (valueName, some part)] (.mapping entries) := by
  obtain ⟨value, part, column, operand, ⟨foundColumn, readColumn⟩,
    ⟨foundPart, readPart⟩, closed, rfl⟩ := Record.readPair_eq_ok.mp held
  obtain rfl :=
    text.spelling (Record.isJson_of_find? json foundColumn) readColumn
  have spelled := expr.spelling (Record.isJson_of_find? json foundPart) readPart
  exact ⟨column, operand, part, rfl, spelled, Record.spelled_of_isJson json
    (by simpa using different) ⟨foundColumn, foundPart⟩ closed⟩

theorem assignment : ReadsSpelling Assignment.ofValue Assignment.Spelling where
  read_eq_ok := by
    intro lax change value spelled
    cases change with
    | set column operand =>
        obtain ⟨part, spelled, record⟩ := spelled
        obtain ⟨entries, rfl, ⟨foundColumn, foundPart⟩, closed⟩ :=
          record.exists_entries (by simp)
        apply Assignment.ofValue_mapping_of_read .set
        exact Record.readPair_eq_ok.mpr ⟨_, _, _, _, ⟨foundColumn, rfl⟩,
          ⟨foundPart, expr.read_eq_ok _ spelled⟩, closed, rfl⟩
    | increment column amount =>
        obtain ⟨part, spelled, record⟩ := spelled
        obtain ⟨entries, rfl, ⟨foundColumn, foundPart⟩, closed⟩ :=
          record.exists_entries (by simp)
        apply Assignment.ofValue_mapping_of_read .increment
        exact Record.readPair_eq_ok.mpr ⟨_, _, _, _, ⟨foundColumn, rfl⟩,
          ⟨foundPart, expr.read_eq_ok _ spelled⟩, closed, rfl⟩
  spelling := by
    intro change value json held
    cases value with
    | mapping entries =>
        obtain ⟨kind, _, read⟩ := Assignment.ofValue_mapping_eq_ok.mp held
        cases kind with
        | set =>
            obtain ⟨column, operand, part, rfl, spelled, record⟩ :=
              exists_assignment (by decide) json read
            exact ⟨part, spelled, record⟩
        | increment =>
            obtain ⟨column, amount, part, rfl, spelled, record⟩ :=
              exists_assignment (by decide) json read
            exact ⟨part, spelled, record⟩
    | assignment => cases json
    | _ => cases held

end ReadsSpelling

/-! ## Queries -/

section Queries

variable {entries : List (Value × Value)} {query : Query}

theorem Query.ofValue_mapping_eq_ok_iff :
    Query.ofValue (.mapping entries) = .ok query ↔
      (∃ value, Record.find? "FROM" entries = some value ∧
        Source.ofValue value = .ok query.source) ∧
      Slot.Holds (query.selection = [])
        (fun value => value.readList Expr.ofValue = .ok query.selection)
        (Record.find? "SELECT" entries) ∧
      Slot.Holds (query.filter = none)
        (fun value => value.readOptional Expr.ofValue = .ok query.filter)
        (Record.find? "WHERE" entries) ∧
      Slot.Holds (query.grouping = [])
        (fun value => (positionalGroups value).readList Expr.ofValue =
          .ok query.grouping)
        (Record.find? "GROUP_BY" entries) ∧
      Slot.Holds (query.ordering = [])
        (fun value => value.readList OrderItem.ofValue = .ok query.ordering)
        (Record.find? "ORDER_BY" entries) ∧
      Slot.Holds (query.limit = none)
        (fun value => value.readOptional readLimit = .ok query.limit)
        (Record.find? "LIMIT" entries) ∧
      Slot.Holds (query.hint = none)
        (fun value => value.readOptionalText = .ok query.hint)
        (Record.find? "LOCK" entries) ∧
      Slot.Holds (query.assignments = [])
        (fun value => value.readList Assignment.ofValue =
          .ok query.assignments)
        (Record.find? "UPDATE" entries) ∧
      Record.closed entries Query.fields = .ok () := by
  unfold ofValue
  simp only [Reading.map_eq_ok, Record.read_eq_ok, Reading.both_eq_ok,
    Record.required_eq_ok, Record.optional_eq_ok_iff_holds]
  constructor
  · rintro ⟨_, ⟨⟨source, selection, filter, grouping, ordering, limit, hint,
      assignments⟩, closed⟩, rfl⟩
    exact ⟨source, selection, filter, grouping, ordering, limit, hint,
      assignments, closed⟩
  · rintro ⟨source, selection, filter, grouping, ordering, limit, hint,
      assignments, closed⟩
    exact ⟨(query.source, query.selection, query.filter, query.grouping,
        query.ordering, query.limit, query.hint, query.assignments),
      ⟨⟨source, selection, filter, grouping, ordering, limit, hint,
        assignments⟩, closed⟩, rfl⟩

end Queries

theorem ReadsSpelling.query : ReadsSpelling Query.ofValue Query.Spelling where
  read_eq_ok := by
    rintro lax query _ ⟨source, selection, filter, grouping, ordering, limit,
      hint, assignments, fields, record⟩
    obtain ⟨entries, rfl, ⟨foundSource, foundSelection, foundFilter,
      foundGrouping, foundOrdering, foundLimit, foundHint, foundAssignments⟩,
      closed⟩ := record.exists_entries (by simp)
    apply Query.ofValue_mapping_eq_ok_iff.mpr
    refine ⟨⟨source, foundSource, ?_⟩, ?_, ?_, ?_, ?_, ?_, ?_, ?_, closed⟩
    · exact ReadsSpelling.source.read_eq_ok lax fields.source
    · exact expr.list.holds_read _ fields.selection foundSelection
    · exact optionalExpr.holds_read _ fields.filter foundFilter
    · exact groups.holds_read _ fields.grouping foundGrouping
    · exact orderItem.list.holds_read _ fields.ordering foundOrdering
    · exact optionalLimit.holds_read _ fields.limit foundLimit
    · exact optionalText.holds_read lax fields.hint foundHint
    · exact assignment.list.holds_read _ fields.assignments foundAssignments
  spelling := by
    intro query value json held
    cases value with
    | mapping entries =>
        obtain ⟨⟨source, foundSource, sourceRead⟩, selection, filter, grouping,
          ordering, limit, hint, assignments, closed⟩ :=
          Query.ofValue_mapping_eq_ok_iff.mp held
        have sourceSpelled :=
          ReadsSpelling.source.spelling
            (Record.isJson_of_find? json foundSource)
            sourceRead
        exact ⟨_, _, _, _, _, _, _, _, {
            source := sourceSpelled
            selection := expr.list.holds_spelling json selection
            filter := optionalExpr.holds_spelling json filter
            grouping := groups.holds_spelling json grouping
            ordering := orderItem.list.holds_spelling json ordering
            limit := optionalLimit.holds_spelling json limit
            hint := optionalText.holds_spelling json hint
            assignments := assignment.list.holds_spelling json assignments },
          Record.spelled_of_isJson json (by simp)
            ⟨foundSource, rfl, rfl, rfl, rfl, rfl, rfl, rfl⟩ closed⟩
    | _ => cases held

theorem Query.ofPlan_eq_ok_of_ofValue {plan : String} {query : Query}
    {value : Value} (parsed : Json.read plan.toList = .ok value)
    (held : Query.ofValue value = .ok query) :
    Query.ofPlan plan = .ok query := by
  rw [Query.ofPlan, parsed]
  simp only [held]

/-- The plans that are accepted are the JSON texts of spellings. -/
theorem Query.ofPlan_eq_ok_iff {plan : String} {query : Query} :
    Query.ofPlan plan = .ok query ↔
      ∃ value, Json.read plan.toList = .ok value ∧
        query.Spelling true value := by
  constructor
  · intro accepted
    unfold Query.ofPlan at accepted
    split at accepted
    · cases accepted
    · cases accepted
    · next value parsed =>
      split at accepted
      · next held =>
        cases accepted
        exact ⟨value, parsed,
          ReadsSpelling.query.spelling (Json.isJson_of_read parsed) held⟩
      · cases accepted
  · rintro ⟨value, parsed, spelled⟩
    exact ofPlan_eq_ok_of_ofValue parsed
      (ReadsSpelling.query.read_eq_ok true spelled)

/-- Every spelling of a query is read as the query, and its plan gives the
statement of the query; what is read from data as JSON holds it is a spelling
of the query that it is read as. -/
theorem Query.ofValue_of_spelling_and_spelling_of_ofValue (query : Query)
    (value : Value) :
    (∀ lax, query.Spelling lax value →
      Query.ofValue value = .ok query ∧
      ∀ plan operation options, Json.read plan.toList = .ok value →
        compilePlan plan operation options =
          orRefuse (query.compile operation options)) ∧
    (value.IsJson → Query.ofValue value = .ok query →
      query.Spelling true value) := by
  constructor
  · intro lax spelled
    have held := ReadsSpelling.query.read_eq_ok lax spelled
    refine ⟨held, ?_⟩
    intro plan operation options parsed
    rw [compilePlan, Query.ofPlan_eq_ok_of_ofValue parsed held]
    rfl
  · exact ReadsSpelling.query.spelling

def dailyGroups : Query :=
  { source := ⟨"events", none⟩
    selection := [], ordering := [], limit := none, hint := none
    filter := some (.compare .equal (.column "day") (.param (.int 7)))
    grouping := [.literal (.int 1)], assignments := [] }

def dailyGroupsPlan : String :=
  "\x7b\"GROUP_BY\": [1], \"FROM\": \x7b\"table\": \"events\"\x7d, " ++
    "\"WHERE\": \x7b\"==\": [\x7b\"col\": \"day\"\x7d, " ++
    "\x7b\"param\": 7\x7d]\x7d\x7d"

def dailyGroupsFields : List (String × Value) :=
  [("GROUP_BY", .list [.int 1]),
    ("FROM", .mapping [(.text "table", .text "events")]),
    ("WHERE", .mapping [(.text "==", .list
      [.mapping [(.text "col", .text "day")],
        .mapping [(.text "param", .int 7)]])])]

theorem dailyGroups_spelling :
    dailyGroups.Spelling false (.mapping (Record.texts dailyGroupsFields)) := by
  have column : (Expr.column "day").Spelling false
      (.mapping [(.text "col", .text "day")]) :=
    .column ⟨[("col", .text "day")], .refl _, rfl⟩
  have bound : (Expr.param (.int 7)).Spelling false
      (.mapping [(.text "param", .int 7)]) :=
    .param ⟨[("param", .int 7)], .refl _, rfl⟩
  refine ⟨.mapping [(.text "table", .text "events")], none,
    some (.mapping [(.text "==", .list
      [.mapping [(.text "col", .text "day")],
        .mapping [(.text "param", .int 7)]])]),
    some (.list [.int 1]), none, none, none, none, ?_, dailyGroupsFields, ?_,
    rfl⟩
  · exact {
      source := ⟨none, rfl, [("table", .text "events")], .refl _, rfl⟩
      selection := rfl
      filter := .compare_by_key (by decide) column bound
      grouping := ⟨_, .cons (.inr ⟨1, rfl, rfl⟩) .nil, rfl⟩
      ordering := rfl
      limit := rfl
      hint := rfl
      assignments := rfl }
  · exact (List.Perm.swap _ _ _).trans (.cons _ (.swap _ _ _))

theorem Query.ofValue_of_spelling_dailyGroups :
    Query.ofValue (.mapping (Record.texts dailyGroupsFields)) =
      .ok dailyGroups ∧
    compilePlan dailyGroupsPlan (.text "all") [] =
      orRefuse (dailyGroups.compile (.text "all") []) ∧
    dailyGroups.Spelling true (.mapping (Record.texts dailyGroupsFields)) := by
  obtain ⟨read, recovered⟩ :=
    Query.ofValue_of_spelling_and_spelling_of_ofValue dailyGroups
      (.mapping (Record.texts dailyGroupsFields))
  obtain ⟨held, compiled⟩ := read false dailyGroups_spelling
  have parsed : Json.read dailyGroupsPlan.toList =
      .ok (.mapping (Record.texts dailyGroupsFields)) := by cbv
  exact ⟨held, compiled _ _ _ parsed,
    recovered (Json.isJson_of_read parsed) held⟩

end StructuredCql
