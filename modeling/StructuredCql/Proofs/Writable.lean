import StructuredCql.Proofs.Parts
import StructuredCql.Proofs.Spelling.Readers
import StructuredCql.Value.Writable

/-!
# Writable values and expressions

A value is writable if all whole numbers in it are.  An expression that is read
from a writable value is writable, and so are the parts of a writable
expression.
-/

namespace StructuredCql

theorem Value.areWritable_iff {values : List Value} :
    areWritable values = true ↔ ∀ value ∈ values, value.isWritable := by
  induction values with
  | nil => simp [areWritable]
  | cons value rest ih => simp [areWritable, ih]

theorem Value.entriesAreWritable_iff {entries : List (Value × Value)} :
    entriesAreWritable entries = true ↔
      ∀ entry ∈ entries, entry.1.isWritable ∧ entry.2.isWritable := by
  induction entries with
  | nil => simp [entriesAreWritable]
  | cons entry rest ih => simp [entriesAreWritable, ih, and_assoc]

theorem Value.keywordsAreWritable_iff {entries : List (String × Value)} :
    keywordsAreWritable entries = true ↔
      ∀ entry ∈ entries, entry.2.isWritable := by
  induction entries with
  | nil => simp [keywordsAreWritable]
  | cons entry rest ih => simp [keywordsAreWritable, ih]

theorem Expr.areWritable_iff {operands : List Expr} :
    areWritable operands = true ↔
      ∀ operand ∈ operands, operand.isWritable := by
  induction operands with
  | nil => simp [areWritable]
  | cons operand rest ih => simp [areWritable, ih]

/-! ## The elements of writable values -/

theorem Expr.isWritable_of_mem_fields {operand : Expr}
    (writable : operand.isWritable) :
    ∀ field ∈ operand.fields, field.2.isWritable := by
  have wrapped (operands : List Expr) (all : areWritable operands) :
      Value.areWritable (operands.map .expr) := by
    rw [Value.areWritable_iff, List.forall_mem_map]
    exact areWritable_iff.mp all
  cases operand with
  | and first rest | or first rest =>
      have := wrapped (first :: rest)
        (by simpa [areWritable, isWritable] using writable)
      simpa [fields, Value.isWritable] using this
  | membership operand values =>
      have := wrapped (operand :: values)
        (by simpa [areWritable, isWritable] using writable)
      simpa [fields, Value.isWritable] using this
  | keywords entries args =>
      simp only [isWritable, Bool.and_eq_true, Value.keywordsAreWritable_iff]
        at writable
      have keyed : Value.entriesAreWritable
          (entries.map fun entry => (.text entry.1, entry.2)) := by
        rw [Value.entriesAreWritable_iff, List.forall_mem_map]
        intro entry member
        exact ⟨by simp [Value.isWritable], writable.1 entry member⟩
      simpa [fields, Value.isWritable, keyed] using writable.2
  | call function args =>
      have := wrapped args (by simpa [isWritable] using writable)
      simpa [fields, Value.isWritable] using this
  | column => simp [fields, Value.isWritable]
  | _ => simpa [fields, Value.isWritable, isWritable] using writable

theorem Value.isWritable_of_mem_elements {value element : Value}
    {elements : List Value} (writable : value.isWritable)
    (found : value.elements? = some elements) (member : element ∈ elements) :
    element.isWritable := by
  have pairs {fields : List (String × Value)}
      (record : value.fields? = some fields)
      (all : ∀ field ∈ fields, field.2.isWritable) :
      value.items? = none → element.isWritable := by
    intro noItems
    rw [elements?, noItems, record] at found
    cases found
    obtain ⟨field, isField, rfl⟩ := List.mem_map.mp member
    simpa [isWritable, areWritable] using all field isField
  cases value with
  | list items | tuple items =>
      cases found
      exact areWritable_iff.mp writable element member
  | expr operand =>
      exact pairs rfl (Expr.isWritable_of_mem_fields writable) rfl
  | assignment change =>
      refine pairs rfl ?_ rfl
      cases change <;>
        simpa [Assignment.fields, isWritable, Assignment.isWritable] using
          writable
  | source place =>
      refine pairs rfl ?_ rfl
      cases found : place.keyspace <;>
        simp [Source.fields, isWritable, found]
  | orderItem operand direction =>
      exact pairs rfl (by simpa [isWritable] using writable) rfl
  | limit count => exact pairs rfl (by simpa [isWritable] using writable) rfl
  | _ => cases found

/-! ## Reading from writable parts -/

structure Part.Writable (part : Part) : Prop where
  value : part.value.isWritable
  operand : ∀ {operand}, part.operand = .ok operand → operand.isWritable
  items : ∀ {items}, part.items = some items →
    ∀ operand, .ok operand ∈ items → operand.isWritable

namespace Part.Writable

variable {part : Part} (writable : part.Writable)

include writable

theorem operands {operands : List Expr} (read : part.operands = .ok operands) :
    Expr.areWritable operands := by
  rw [Expr.areWritable_iff]
  intro operand member
  unfold Part.operands at read
  split at read
  · next readings found =>
    have isReading : .ok operand ∈ readings := by
      rw [Reading.items_eq_ok.mp read]
      exact List.mem_map_of_mem member
    unfold elements at found
    cases listed : part.items with
    | some items =>
        rw [listed] at found
        cases found
        exact writable.items listed operand isReading
    | none =>
        -- The fields of a record are no expressions, so none of them was read.
        rw [listed, Option.none_or, Option.map_eq_some_iff] at found
        obtain ⟨fields, _, rfl⟩ := found
        obtain ⟨field, _, refused⟩ := List.mem_map.mp isReading
        cases refused
  · cases read

theorem someOperands {first : Expr} {rest : List Expr}
    (read : part.someOperands = .ok (first, rest)) :
    first.isWritable ∧ Expr.areWritable rest := by
  have all := writable.operands (someOperands_eq_ok_iff.mp read)
  simpa [Expr.areWritable] using all

theorem arguments {args : List Value} (read : part.arguments = .ok args) :
    Value.areWritable args := by
  rw [Value.areWritable_iff]
  intro arg member
  unfold Part.arguments at read
  split at read
  · next found =>
    cases read
    exact Value.isWritable_of_mem_elements writable.value found member
  · cases read

theorem keywords {entries : List (String × Value)}
    (read : part.template = .ok (.inr entries)) :
    Value.keywordsAreWritable entries := by
  unfold template at read
  split at read
  · cases read
  · next issues found =>
    split at read
    · next held =>
      split at read
      · cases read
        rw [Value.keywordsAreWritable_iff]
        have all := writable.value
        rw [held, Value.isWritable, Value.entriesAreWritable_iff] at all
        refine @Entries.forall_mem_ofPairs _ _ _ _
          (fun value : Value => value.isWritable = true) ?_
        intro pair member
        obtain ⟨entry, isEntry, named⟩ := List.mem_filterMap.mp member
        split at named
        · cases named
          exact (all entry isEntry).2
        · cases named
      · cases read
    · cases read

end Part.Writable

namespace NodeKind

variable {entries : List (Value × Part)} {result : Expr}
  (writable : ∀ entry ∈ entries, entry.2.Writable)

include writable

private theorem writable_of_find? {name : String} {part : Part}
    (found : Record.find? name entries = some part) : part.Writable := by
  obtain ⟨key, member, _⟩ := Record.exists_mem_of_find? found
  exact writable (key, part) member

private theorem isWritable_of_junction {name : String}
    {make : Expr → List Expr → Expr}
    (made : ∀ first rest, (make first rest).isWritable =
      (first.isWritable && Expr.areWritable rest))
    (read : readJunction entries name make = .ok result) :
    result.isWritable := by
  obtain ⟨part, ⟨first, rest⟩, found, held, _, rfl⟩ :=
    Record.readSingle_eq_ok.mp read
  rw [made, Bool.and_eq_true]
  exact (writable_of_find? writable found).someOperands held

private theorem isWritable_of_conversion {name : String}
    {make : Expr → String → Expr}
    (made : ∀ operand typeName,
      (make operand typeName).isWritable = operand.isWritable)
    (read : readConversion entries name make = .ok result) :
    result.isWritable := by
  obtain ⟨part, _, operand, _, ⟨found, held⟩, _, _, rfl⟩ :=
    Record.readPair_eq_ok.mp read
  rw [made]
  exact (writable_of_find? writable found).operand held

private theorem areWritable_of_holds {name : String} {args : List Expr}
    (held : Slot.Holds (args = []) (fun part => part.operands = .ok args)
      (Record.find? name entries)) : Expr.areWritable args := by
  cases found : Record.find? name entries with
  | none =>
      rw [found] at held
      rw [show args = [] from held]
      rfl
  | some part =>
      rw [found] at held
      exact (writable_of_find? writable found).operands held

private theorem areWritable_of_holds_arguments {name : String}
    {args : List Value}
    (held : Slot.Holds (args = []) (fun part => part.arguments = .ok args)
      (Record.find? name entries)) : Value.areWritable args := by
  cases found : Record.find? name entries with
  | none =>
      rw [found] at held
      rw [show args = [] from held]
      rfl
  | some part =>
      rw [found] at held
      exact (writable_of_find? writable found).arguments held

private theorem isWritable_of_fragment
    (read : readFragment entries = .ok result) : result.isWritable := by
  obtain ⟨part, template, args, ⟨found, held⟩, heldArgs, _, rfl⟩ :=
    Record.readDefaulted_eq_ok.mp read
  have args := areWritable_of_holds_arguments writable heldArgs
  cases template with
  | inl text => simpa [Expr.isWritable] using args
  | inr keywords =>
      have := (writable_of_find? writable found).keywords held
      simpa [Expr.isWritable, this] using args

private theorem isWritable_of_comparison
    (read : readComparison entries = .ok result) : result.isWritable := by
  rcases readComparison_eq_or entries with
    named | ⟨key, part, comparison, rfl, _, spelled⟩
  · rw [named] at read
    obtain ⟨_, left, right, _, ⟨leftPart, foundLeft, heldLeft⟩,
      ⟨rightPart, foundRight, heldRight⟩, _, rfl⟩ :=
      readNamedComparison_eq_ok.mp read
    have left := (writable_of_find? writable foundLeft).operand heldLeft
    have right := (writable_of_find? writable foundRight).operand heldRight
    simp [Expr.isWritable, left, right]
  · rw [spelled] at read
    have part_writable := writable (key, part) List.mem_cons_self
    unfold readSpelled at read
    split at read
    · next leftRead rightRead listed =>
      obtain ⟨⟨left, right⟩, both, rfl⟩ := Reading.map_eq_ok.mp read
      obtain ⟨readLeft, readRight⟩ := Reading.both_eq_ok.mp both
      have left := part_writable.items listed left
        (by simp [← Reading.under_eq_ok.mp readLeft])
      have right := part_writable.items listed right
        (by simp [← Reading.under_eq_ok.mp readRight])
      simp [Expr.isWritable, left, right]
    · cases read

private theorem isWritable_of_nullCheck
    (read : readNullCheck entries = .ok result) : result.isWritable := by
  rcases readNullCheck_eq_or entries with
    named | ⟨key, part, negated, rfl, _, spelled⟩
  · rw [named] at read
    obtain ⟨part, operand, negated, ⟨found, held⟩, _, _, rfl⟩ :=
      Record.readDefaulted_eq_ok.mp read
    rw [Expr.isWritable]
    exact (writable_of_find? writable found).operand held
  · rw [spelled] at read
    obtain ⟨operand, held, rfl⟩ := Reading.map_eq_ok.mp read
    rw [Expr.isWritable]
    exact (writable (key, part) List.mem_cons_self).operand
      (Reading.under_eq_ok.mp held)

theorem isWritable_of_read {kind : NodeKind}
    (read : kind.read entries = .ok result) : result.isWritable := by
  cases kind with
  | column =>
      obtain ⟨_, _, rfl⟩ := Reading.map_eq_ok.mp read
      rfl
  | literal | param =>
      obtain ⟨part, value, found, held, _, rfl⟩ :=
        Record.readSingle_eq_ok.mp read
      cases held
      rw [Expr.isWritable]
      exact (writable_of_find? writable found).value
  | call =>
      obtain ⟨_, function, args, _, held, _, rfl⟩ :=
        Record.readDefaulted_eq_ok.mp read
      rw [Expr.isWritable]
      exact areWritable_of_holds writable held
  | cast | blob =>
      exact isWritable_of_conversion writable
        (fun _ _ => by rw [Expr.isWritable]) read
  | fragment => exact isWritable_of_fragment writable read
  | compare => exact isWritable_of_comparison writable read
  | and | or | membership =>
      exact isWritable_of_junction writable
        (fun _ _ => by rw [Expr.isWritable]) read
  | not =>
      obtain ⟨part, operand, found, held, _, rfl⟩ :=
        Record.readSingle_eq_ok.mp read
      rw [Expr.isWritable]
      exact (writable_of_find? writable found).operand held
  | nullCheck => exact isWritable_of_nullCheck writable read

end NodeKind

mutual

theorem Expr.isWritable_of_ofValue : ∀ {value : Value} {operand : Expr},
    value.isWritable → Expr.ofValue value = .ok operand → operand.isWritable
  | .expr operand, _, writable, read => by
      cases read
      simpa [Value.isWritable] using writable
  | .mapping entries, operand, writable, read => by
      simp only [Expr.ofValue, Expr.ofParts] at read
      split at read
      · cases read
      · rw [Value.isWritable] at writable
        exact NodeKind.isWritable_of_read (Part.writable_ofEntries writable)
          (Reading.under_eq_ok.mp read)

theorem Part.writable_ofEntries : ∀ {entries : List (Value × Value)},
    Value.entriesAreWritable entries →
      ∀ entry ∈ Part.ofEntries entries, entry.2.Writable
  | (key, value) :: rest, writable => by
      rw [Value.entriesAreWritable, Bool.and_eq_true, Bool.and_eq_true]
        at writable
      rw [Part.ofEntries, List.forall_mem_cons]
      exact ⟨⟨writable.1.2, Expr.isWritable_of_ofValue writable.1.2,
          Part.isWritable_of_itemsOf writable.1.2⟩,
        Part.writable_ofEntries writable.2⟩
  | [], _ => by simp [Part.ofEntries]

theorem Part.isWritable_of_itemsOf : ∀ {value : Value}
    {items : List (Reading Expr)}, value.isWritable →
      Part.itemsOf value = some items →
      ∀ operand, .ok operand ∈ items → operand.isWritable
  | .list values, _, writable, found | .tuple values, _, writable, found => by
      cases found
      rw [Value.isWritable] at writable
      exact Expr.isWritable_of_ofValues writable

theorem Expr.isWritable_of_ofValues : ∀ {values : List Value},
    Value.areWritable values →
      ∀ operand, .ok operand ∈ Expr.ofValues values → operand.isWritable
  | value :: rest, writable => by
      rw [Value.areWritable, Bool.and_eq_true] at writable
      rw [Expr.ofValues]
      intro operand member
      rcases List.mem_cons.mp member with read | member
      · exact Expr.isWritable_of_ofValue writable.1 read.symm
      · exact Expr.isWritable_of_ofValues writable.2 operand member
  | [], _ => by simp [Expr.ofValues]

end

theorem Expr.isWritable_of_mem_parts {part whole : Expr}
    (writable : whole.isWritable) (member : part ∈ whole.parts) :
    part.isWritable := by
  cases whole with
  | column | literal | param | keywords | or | not | nullCheck => cases member
  | call _ args => exact areWritable_iff.mp writable part member
  | cast operand | blob operand =>
      cases List.mem_singleton.mp member
      exact writable
  | fragment _ args =>
      obtain ⟨arg, isArg, reads⟩ := List.mem_filterMap.mp member
      cases read : Expr.ofValue arg with
      | error issues =>
          rw [read] at reads
          cases reads
      | ok operand =>
          rw [read] at reads
          cases reads
          exact isWritable_of_ofValue
            (Value.areWritable_iff.mp writable arg isArg) read
  | compare _ left right =>
      rw [isWritable, Bool.and_eq_true] at writable
      simp only [parts, List.mem_cons, List.not_mem_nil, or_false] at member
      rcases member with rfl | rfl
      · exact writable.1
      · exact writable.2
  | and first rest =>
      rw [isWritable, Bool.and_eq_true] at writable
      rcases List.mem_cons.mp member with rfl | member
      · exact writable.1
      · exact areWritable_iff.mp writable.2 part member
  | membership operand values =>
      rw [isWritable, Bool.and_eq_true] at writable
      rcases List.mem_cons.mp (parts_membership_subset operand values member)
        with rfl | member
      · exact writable.1
      · exact areWritable_iff.mp writable.2 part member

end StructuredCql
