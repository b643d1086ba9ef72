import Mathlib
import StructuredCql.Proofs.Digits
import StructuredCql.Proofs.Reports
import StructuredCql.Proofs.Spelling.Query

/-!
# Writable queries

A query that is read from writable data as JSON holds it is writable.  Decimal
numbers may have an exponent of any size, so that a limit out of other data
may be a number of too many digits.
-/

namespace StructuredCql

def ReadsWritable {α : Type} (read : Value → Reading α)
    (writable : α → Prop) : Prop :=
  ∀ value item, value.IsJson → value.isWritable → read value = .ok item →
    writable item

theorem Value.isWritable_of_find? {entries : List (Value × Value)}
    {name : String} {value : Value} (writable : (mapping entries).isWritable)
    (found : Record.find? name entries = some value) : value.isWritable := by
  rw [isWritable, entriesAreWritable_iff] at writable
  obtain ⟨key, member, _⟩ := Record.exists_mem_of_find? found
  exact (writable (key, value) member).2

theorem Value.isWritable_of_readCount {value : Value} {count : Nat}
    (json : value.IsJson) (writable : value.isWritable)
    (read : value.readCount = .ok count) : Whole.isWritable count := by
  unfold readCount at read
  split at read
  · next number held =>
    split at read
    · cases read
    · next notNegative =>
      cases read
      have number_writable : Whole.isWritable number := by
        cases json with
        | int number =>
            cases held
            exact writable
        | bool flag =>
            cases held
            exact Whole.isWritable_of_bounds (by cases flag <;> decide)
        | float number => exact isWritable_of_readRatio held
        | text text => exact isWritable_of_readIntegerText held
        | _ => cases held
      rwa [Int.toNat_of_nonneg (by omega)]
  · cases read

namespace ReadsWritable

variable {α : Type} {read : Value → Reading α} {writable : α → Prop}

theorem expr : ReadsWritable Expr.ofValue fun operand => operand.isWritable :=
  fun _ _ _ => Expr.isWritable_of_ofValue

theorem list (reads : ReadsWritable read writable) :
    ReadsWritable (Value.readList read) fun items =>
      ∀ item ∈ items, writable item := by
  intro value items json isWritable held
  cases json with
  | list each =>
      rw [Value.isWritable, Value.areWritable_iff] at isWritable
      have both := fun item member => And.intro (each item member)
        (isWritable item member)
      have implied := forall₂_imp_of_forall_mem both
        (Reading.items_map_eq_ok_iff.mp held)
        fun item value data read =>
          And.intro (reads value item data.1 data.2 read) read
      exact (List.forall₂_and_left _ _ |>.mp implied).1
  | _ => cases held

theorem optional (reads : ReadsWritable read writable) :
    ReadsWritable (Value.readOptional read) fun slot =>
      ∀ item ∈ slot, writable item := by
  intro value slot json isWritable held
  rcases Value.readOptional_eq_ok_iff.mp held with
    ⟨_, rfl⟩ | ⟨_, inner, readInner, rfl⟩
  · simp
  · rintro _ ⟨⟩
    exact reads value inner json isWritable readInner

variable {entries : List (Value × Value)}
  (json : (Value.mapping entries).IsJson)
  (isWritable : (Value.mapping entries).isWritable)

include json isWritable

theorem of_find? (reads : ReadsWritable read writable) {name : String}
    {value : Value} {item : α} (found : Record.find? name entries = some value)
    (held : read value = .ok item) : writable item :=
  reads value item (Record.isJson_of_find? json found)
    (Value.isWritable_of_find? isWritable found) held

theorem of_holds (reads : ReadsWritable read writable) {name : String}
    {isDefault : Prop} {item : α} (default : isDefault → writable item)
    (held : Slot.Holds isDefault (fun value => read value = .ok item)
      (Record.find? name entries)) : writable item := by
  cases found : Record.find? name entries with
  | none =>
      rw [found] at held
      exact default held
  | some value =>
      rw [found] at held
      exact reads.of_find? json isWritable found held

omit json isWritable

theorem orderItem : ReadsWritable OrderItem.ofValue fun item =>
    item.operand.isWritable := by
  intro value item json isWritable held
  cases value with
  | mapping entries =>
      obtain ⟨part, operand, direction, ⟨found, read⟩, _, _, rfl⟩ :=
        Record.readDefaulted_eq_ok.mp held
      exact expr.of_find? json isWritable found read
  | orderItem => cases json
  | _ => cases held

theorem limit : ReadsWritable readLimit fun count =>
    Whole.isWritable count := by
  intro value count json isWritable held
  cases value with
  | mapping entries =>
      obtain ⟨part, found, read⟩ :=
        Record.required_eq_ok.mp (Record.read_eq_ok.mp held).1
      exact Value.isWritable_of_readCount (Record.isJson_of_find? json found)
        (Value.isWritable_of_find? isWritable found) read
  | limit => cases json
  | _ => cases held

private theorem ofEntries {entries : List (Value × Value)}
    {columnName valueName : String} {make : String → Expr → Assignment}
    {change : Assignment} (json : (Value.mapping entries).IsJson)
    (isWritable : (Value.mapping entries).isWritable)
    (made : ∀ column operand,
      (make column operand).isWritable = operand.isWritable)
    (held : Assignment.ofEntries entries columnName valueName make =
      .ok change) : change.isWritable := by
  obtain ⟨_, part, _, operand, _, ⟨found, read⟩, _, rfl⟩ :=
    Record.readPair_eq_ok.mp held
  rw [made]
  exact expr.of_find? json isWritable found read

theorem assignment : ReadsWritable Assignment.ofValue fun change =>
    change.isWritable := by
  intro value change json isWritable held
  cases value with
  | mapping entries =>
      obtain ⟨kind, _, read⟩ := Assignment.ofValue_mapping_eq_ok.mp held
      cases kind <;>
        exact ofEntries json isWritable
          (fun _ _ => by rw [Assignment.isWritable]) read
  | assignment => cases json
  | _ => cases held

private theorem positional {value : Value} (json : value.IsJson)
    (isWritable : value.isWritable) :
    (positionalGroup value).IsJson ∧ (positionalGroup value).isWritable := by
  cases value with
  | int position =>
      rw [Value.isWritable] at isWritable
      constructor
      · change (Value.mapping (Record.texts [("value", .int position)])).IsJson
        exact .mapping (by simp) (by simpa using .int position)
      · simp [positionalGroup, Value.isWritable, Value.entriesAreWritable,
          isWritable]
  | _ => exact ⟨json, isWritable⟩

theorem groups : ReadsWritable
    (fun value => (positionalGroups value).readList Expr.ofValue)
    fun operands => ∀ operand ∈ operands, operand.isWritable := by
  intro value operands json isWritable held
  cases json with
  | list each =>
      rw [Value.isWritable, Value.areWritable_iff] at isWritable
      refine expr.list _ _ (.list ?_) ?_ held
      · rw [List.forall_mem_map]
        exact fun item member =>
          (positional (each item member) (isWritable item member)).1
      · rw [Value.isWritable, Value.areWritable_iff, List.forall_mem_map]
        exact fun item member =>
          (positional (each item member) (isWritable item member)).2
  | _ => cases held

end ReadsWritable

theorem Query.writable_of_ofValue {value : Value} {query : Query}
    (json : value.IsJson) (writable : value.isWritable)
    (read : Query.ofValue value = .ok query) : query.Writable := by
  cases value with
  | mapping entries =>
      obtain ⟨_, selection, filter, grouping, ordering, limit, _, assignments,
        _⟩ := Query.ofValue_mapping_eq_ok_iff.mp read
      exact {
        selection := ReadsWritable.expr.list.of_holds json writable
          (by rintro none; simp [none]) selection
        filter := ReadsWritable.expr.optional.of_holds json writable
          (by rintro none; simp [none]) filter
        grouping := ReadsWritable.groups.of_holds json writable
          (by rintro none; simp [none]) grouping
        ordering := ReadsWritable.orderItem.list.of_holds json writable
          (by rintro none; simp [none]) ordering
        limit := ReadsWritable.limit.optional.of_holds json writable
          (by rintro none; simp [none]) limit
        assignments := ReadsWritable.assignment.list.of_holds json writable
          (by rintro none; simp [none]) assignments }
  | _ => cases read

end StructuredCql
