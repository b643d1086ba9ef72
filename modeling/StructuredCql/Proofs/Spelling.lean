import Mathlib.Data.List.Perm.Basic
import StructuredCql.Proofs.Records
import StructuredCql.Query.Reading

/-!
# Spellings

The ways to write down a query: a record is a mapping with its fields in any
order, fields that hold their default may be left out, and some parts have a
short form beside the record.  The definitions say nothing about readers; that
the readers accept the spellings and nothing else is proved from them.

Two kinds of single values, the number of a limit and the flag of a null check,
are also read where they are written in another way, such as a number as a
text.  These ways count as spellings where `lax` is set.
-/

namespace StructuredCql

/-! ## Records -/

namespace Record

def texts {α : Type} (fields : List (String × α)) : List (Value × α) :=
  fields.map fun field => (.text field.1, field.2)

def present {α : Type} (slots : List (String × Option α)) :
    List (String × α) :=
  slots.filterMap fun slot => slot.2.map fun value => (slot.1, value)

/-- A mapping with the fields of a record in any order, and nothing else. -/
def Spelled (slots : List (String × Option Value)) (value : Value) : Prop :=
  ∃ fields : List (String × Value),
    fields.Perm (present slots) ∧ value = .mapping (texts fields)

section Entries

variable {α : Type} {fields : List (String × α)} {name : String} {value : α}

theorem find?_texts_eq_some_iff (distinct : (fields.map Prod.fst).Nodup) :
    find? name (texts fields) = some value ↔ (name, value) ∈ fields := by
  have listed : ∀ {other}, find? name (texts fields) = some other →
      (name, other) ∈ fields := by
    intro other found
    obtain ⟨key, member, letters⟩ := exists_mem_of_find? found
    obtain ⟨field, isField, same⟩ := List.mem_map.mp member
    cases same
    cases letters
    exact isField
  constructor
  · exact listed
  · intro member
    have present : has name (texts fields) = true :=
      has_iff.mpr ⟨_, List.mem_map_of_mem member, rfl⟩
    obtain ⟨other, found⟩ := Option.isSome_iff_exists.mp present
    have same := List.inj_on_of_nodup_map distinct (listed found) member rfl
    cases same
    exact found

theorem closed_texts_eq_ok_iff {names : List String} :
    closed (texts fields) names = .ok () ↔
      ∀ field ∈ fields, field.1 ∈ names := by
  rw [closed_eq_ok_iff, texts, List.forall_mem_map]
  simp [Value.letters?]

end Entries

section Slots

variable {slots : List (String × Option Value)} {value : Value}

theorem mem_present_iff {name : String} :
    (name, value) ∈ present slots ↔ (name, some value) ∈ slots := by
  simp [present]

theorem present_names_sublist :
    ((present slots).map Prod.fst).Sublist (slots.map Prod.fst) := by
  induction slots with
  | nil => exact .slnil
  | cons slot rest ih =>
      obtain ⟨name, _ | held⟩ := slot
      · exact ih.cons name
      · exact ih.cons_cons name

theorem present_names_nodup (distinct : (slots.map Prod.fst).Nodup) :
    ((present slots).map Prod.fst).Nodup :=
  distinct.sublist present_names_sublist

theorem Spelled.exists_entries (spelled : Spelled slots value)
    (distinct : (slots.map Prod.fst).Nodup) :
    ∃ entries, value = .mapping entries ∧
      slots.Forall (fun slot => find? slot.1 entries = slot.2) ∧
      closed entries (slots.map Prod.fst) = .ok () := by
  obtain ⟨fields, permuted, rfl⟩ := spelled
  have fieldsDistinct : (fields.map Prod.fst).Nodup :=
    (permuted.map Prod.fst).nodup_iff.mpr (present_names_nodup distinct)
  have found_iff : ∀ name held, find? name (texts fields) = some held ↔
      (name, some held) ∈ slots := by
    intro name held
    rw [find?_texts_eq_some_iff fieldsDistinct, permuted.mem_iff,
      mem_present_iff]
  refine ⟨texts fields, rfl, List.forall_iff_forall_mem.mpr ?_, ?_⟩
  · rintro ⟨name, slot⟩ member
    cases slot with
    | some held => exact (found_iff name held).mpr member
    | none =>
        rw [Option.eq_none_iff_forall_ne_some]
        intro held found
        have other := (found_iff name held).mp found
        cases List.inj_on_of_nodup_map distinct member other rfl
  · rw [closed_texts_eq_ok_iff]
    intro field member
    exact present_names_sublist.subset
      (List.mem_map_of_mem (permuted.mem_iff.mp member))

theorem spelled_of_found {fields : List (String × Value)}
    (distinct : (slots.map Prod.fst).Nodup)
    (fieldsDistinct : (fields.map Prod.fst).Nodup)
    (found : slots.Forall fun slot => find? slot.1 (texts fields) = slot.2)
    (closed : closed (texts fields) (slots.map Prod.fst) = .ok ()) :
    Spelled slots (.mapping (texts fields)) := by
  rw [List.forall_iff_forall_mem] at found
  refine ⟨fields, ?_, rfl⟩
  rw [List.perm_ext_iff_of_nodup fieldsDistinct.of_map
    (present_names_nodup distinct).of_map]
  rintro ⟨name, held⟩
  rw [mem_present_iff, ← find?_texts_eq_some_iff fieldsDistinct]
  constructor
  · intro present
    have member := (find?_texts_eq_some_iff fieldsDistinct).mp present
    obtain ⟨⟨_, slot⟩, listed, rfl⟩ :=
      List.mem_map.mp (closed_texts_eq_ok_iff.mp closed _ member)
    rwa [← present, found _ listed]
  · intro member
    exact found _ member

end Slots

end Record

/-- A field that may be left out where it holds its default. -/
def Slot.Holds {α : Type} (isDefault : Prop) (spelled : α → Prop) :
    Option α → Prop
  | none => isDefault
  | some value => spelled value

namespace Slot.Holds

variable {α β : Type} {isDefault : Prop} {spelled readable : α → Prop}
  {slot : Option α}

theorem imp (held : Slot.Holds isDefault spelled slot)
    (implies : ∀ value, spelled value → readable value) :
    Slot.Holds isDefault readable slot := by
  cases slot with
  | none => exact held
  | some value => exact implies value held

theorem of_eq {found : Option α} (held : Slot.Holds isDefault spelled slot)
    (same : found = slot)
    (implies : ∀ value, spelled value → readable value) :
    Slot.Holds isDefault readable found := by
  rw [same]
  exact held.imp implies

theorem map_iff {part : β → α} {slot : Option β} :
    Slot.Holds isDefault spelled (slot.map part) ↔
      Slot.Holds isDefault (fun value => spelled (part value)) slot := by
  cases slot <;> rfl

theorem of_map {spelled : β → Prop} {part : β → α} {slot : Option β}
    {found : Option α} (held : Slot.Holds isDefault spelled slot)
    (same : found = slot.map part)
    (reads : ∀ value, spelled value → readable (part value)) :
    Slot.Holds isDefault readable found := by
  rw [same, map_iff]
  exact held.imp reads

end Slot.Holds

def ListSpelling {α : Type} (spelled : α → Value → Prop) (items : List α)
    (value : Value) : Prop :=
  ∃ values, List.Forall₂ spelled items values ∧ value = .list values

/-- What is not there may also be written as such. -/
def OptionalSpelling {α : Type} (spelled : α → Value → Prop) :
    Option α → Value → Prop
  | none, value => value = .null
  | some item, value => spelled item value

def TextSpelling (text : String) (value : Value) : Prop := value = .text text

def FlagSpelling (lax : Bool) (flag : Bool) (value : Value) : Prop :=
  value = .bool flag ∨ lax = true ∧ value.readBool = .ok flag

def CountSpelling (lax : Bool) (count : Nat) (value : Value) : Prop :=
  value = .int count ∨ lax = true ∧ value.readCount = .ok count

/-! ## Expressions -/

/-- A comparison and a null check can be written as a record, or with one of
their keys alone. -/
inductive Expr.Spelling (lax : Bool) : Expr → Value → Prop
  | column {name : String} {value : Value}
      (record : Record.Spelled [("col", some (.text name))] value) :
      Spelling lax (.column name) value
  | literal {held value : Value}
      (record : Record.Spelled [("value", some held)] value) :
      Spelling lax (.literal held) value
  | param {held value : Value}
      (record : Record.Spelled [("param", some held)] value) :
      Spelling lax (.param held) value
  | call {function : CqlFunction} {args : List Expr} {items : List Value}
      {slot : Option Value} {value : Value}
      (spelled : List.Forall₂ (Spelling lax) args items)
      (held : Slot.Holds (args = []) (· = .list items) slot)
      (record : Record.Spelled
        [("func", some (.text function.planName)), ("args", slot)] value) :
      Spelling lax (.call function args) value
  | cast {operand : Expr} {typeName : String} {part value : Value}
      (spelled : Spelling lax operand part)
      (record : Record.Spelled
        [("cast", some part), ("type", some (.text typeName))] value) :
      Spelling lax (.cast operand typeName) value
  | blob {operand : Expr} {typeName : String} {part value : Value}
      (spelled : Spelling lax operand part)
      (record : Record.Spelled
        [("as_blob", some part), ("type", some (.text typeName))] value) :
      Spelling lax (.blob operand typeName) value
  | fragment {template : String} {args : List Value} {slot : Option Value}
      {value : Value}
      (held : Slot.Holds (args = []) (· = .list args) slot)
      (record : Record.Spelled
        [("fragment", some (.text template)), ("args", slot)] value) :
      Spelling lax (.fragment template args) value
  | keywords {entries : List (String × Value)} {args : List Value}
      {slot : Option Value} {value : Value}
      (distinct : (entries.map Prod.fst).Nodup)
      (held : Slot.Holds (args = []) (· = .list args) slot)
      (record : Record.Spelled
        [("fragment", some (.mapping (Record.texts entries))), ("args", slot)]
        value) :
      Spelling lax (.keywords entries args) value
  | compare {comparison : Comparison} {left right : Expr}
      {first second value : Value}
      (left_spelled : Spelling lax left first)
      (right_spelled : Spelling lax right second)
      (record : Record.Spelled [("op", some (.text comparison.name)),
        ("left", some first), ("right", some second)] value) :
      Spelling lax (.compare comparison left right) value
  | compare_by_key {comparison : Comparison} {left right : Expr}
      {first second : Value} {key : String}
      (listed : (key, comparison) ∈ Comparison.spellings)
      (left_spelled : Spelling lax left first)
      (right_spelled : Spelling lax right second) :
      Spelling lax (.compare comparison left right)
        (.mapping [(.text key, .list [first, second])])
  | and {first : Expr} {rest : List Expr} {items : List Value} {value : Value}
      (spelled : List.Forall₂ (Spelling lax) (first :: rest) items)
      (record : Record.Spelled [("AND", some (.list items))] value) :
      Spelling lax (.and first rest) value
  | or {first : Expr} {rest : List Expr} {items : List Value} {value : Value}
      (spelled : List.Forall₂ (Spelling lax) (first :: rest) items)
      (record : Record.Spelled [("OR", some (.list items))] value) :
      Spelling lax (.or first rest) value
  | not {operand : Expr} {part value : Value}
      (spelled : Spelling lax operand part)
      (record : Record.Spelled [("NOT", some part)] value) :
      Spelling lax (.not operand) value
  | membership {operand : Expr} {values : List Expr} {items : List Value}
      {value : Value}
      (spelled : List.Forall₂ (Spelling lax) (operand :: values) items)
      (record : Record.Spelled [("IN", some (.list items))] value) :
      Spelling lax (.membership operand values) value
  | nullCheck {operand : Expr} {negated : Bool} {part : Value}
      {slot : Option Value} {value : Value}
      (spelled : Spelling lax operand part)
      (flag : Slot.Holds (negated = false) (FlagSpelling lax negated) slot)
      (record : Record.Spelled [("operand", some part), ("negated", slot)]
        value) :
      Spelling lax (.nullCheck operand negated) value
  | nullCheck_by_key {operand : Expr} {negated : Bool} {part : Value}
      {key : String}
      (listed : (key, negated) ∈ nullCheckSpellings)
      (spelled : Spelling lax operand part) :
      Spelling lax (.nullCheck operand negated) (.mapping [(.text key, part)])

/-! ## Queries -/

def Source.Spelling (source : Source) (value : Value) : Prop :=
  ∃ keyspace, Slot.Holds (source.keyspace = none)
      (OptionalSpelling TextSpelling source.keyspace) keyspace ∧
    Record.Spelled [("table", some (.text source.table)), ("prefix", keyspace)]
      value

/-- In a list of groups a whole number may stand for itself. -/
def GroupSpelling (lax : Bool) (operand : Expr) (value : Value) : Prop :=
  operand.Spelling lax value ∨
    ∃ position, operand = .literal (.int position) ∧ value = .int position

def OrderItem.Spelling (lax : Bool) (item : OrderItem) (value : Value) :
    Prop :=
  ∃ operand direction, item.operand.Spelling lax operand ∧
    Slot.Holds (item.direction = .ascending)
      (TextSpelling item.direction.name) direction ∧
    Record.Spelled [("expr", some operand), ("direction", direction)] value

def LimitSpelling (lax : Bool) (count : Nat) (value : Value) : Prop :=
  ∃ number, CountSpelling lax count number ∧
    Record.Spelled [("value", some number)] value

def Assignment.Spelling (lax : Bool) : Assignment → Value → Prop
  | .set column operand, value =>
      ∃ part, operand.Spelling lax part ∧
        Record.Spelled [("set", some (.text column)), ("to", some part)] value
  | .increment column amount, value =>
      ∃ part, amount.Spelling lax part ∧
        Record.Spelled [("inc", some (.text column)), ("by", some part)] value

structure Query.Spelling.Fields (lax : Bool) (query : Query) (source : Value)
    (selection filter grouping ordering limit hint assignments :
      Option Value) : Prop where
  source : query.source.Spelling source
  selection : Slot.Holds (query.selection = [])
    (ListSpelling (Expr.Spelling lax) query.selection) selection
  filter : Slot.Holds (query.filter = none)
    (OptionalSpelling (Expr.Spelling lax) query.filter) filter
  grouping : Slot.Holds (query.grouping = [])
    (ListSpelling (GroupSpelling lax) query.grouping) grouping
  ordering : Slot.Holds (query.ordering = [])
    (ListSpelling (OrderItem.Spelling lax) query.ordering) ordering
  limit : Slot.Holds (query.limit = none)
    (OptionalSpelling (LimitSpelling lax) query.limit) limit
  hint : Slot.Holds (query.hint = none)
    (OptionalSpelling TextSpelling query.hint) hint
  assignments : Slot.Holds (query.assignments = [])
    (ListSpelling (Assignment.Spelling lax) query.assignments) assignments

def Query.Spelling (lax : Bool) (query : Query) (value : Value) : Prop :=
  ∃ source selection filter grouping ordering limit hint assignments,
    Query.Spelling.Fields lax query source selection filter grouping ordering
      limit hint assignments ∧
    Record.Spelled [("FROM", some source), ("SELECT", selection),
      ("WHERE", filter), ("GROUP_BY", grouping), ("ORDER_BY", ordering),
      ("LIMIT", limit), ("LOCK", hint), ("UPDATE", assignments)] value

/-! ## Data that JSON can hold -/

inductive Value.IsJson : Value → Prop
  | null : IsJson .null
  | bool (value : Bool) : IsJson (.bool value)
  | int (value : Int) : IsJson (.int value)
  | float (value : Binary64) : IsJson (.float value)
  | text (value : String) : IsJson (.text value)
  | list {items : List Value} (each : ∀ item ∈ items, IsJson item) :
      IsJson (.list items)
  | mapping {fields : List (String × Value)}
      (distinct : (fields.map Prod.fst).Nodup)
      (each : ∀ field ∈ fields, IsJson field.2) :
      IsJson (.mapping (Record.texts fields))

end StructuredCql
