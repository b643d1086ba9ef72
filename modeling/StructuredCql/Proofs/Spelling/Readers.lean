import StructuredCql.Expr.Weight
import StructuredCql.Proofs.Dispatch
import StructuredCql.Proofs.Entries
import StructuredCql.Proofs.Spelling

/-!
# What readers accept

For each shape of a record, what its entries have to hold for a reading of it
to succeed, and with which result.
-/

namespace StructuredCql

/-! ## Words -/

theorem find?_name_eq_some_iff {κ : Type} {all : List κ} {nameOf : κ → String}
    (complete : ∀ item, (all.find? fun other => nameOf other = nameOf item) =
      some item)
    {name : String} {item : κ} :
    (all.find? fun other => nameOf other = name) = some item ↔
      name = nameOf item := by
  constructor
  · intro found
    have same := List.find?_some found
    exact (of_decide_eq_true same).symm
  · rintro rfl
    exact complete item

theorem Comparison.ofName?_eq_some_iff {name : String}
    {comparison : Comparison} :
    ofName? name = some comparison ↔ name = comparison.name :=
  find?_name_eq_some_iff fun item => by cases item <;> rfl

theorem CqlFunction.ofPlanName?_eq_some_iff {name : String}
    {function : CqlFunction} :
    ofPlanName? name = some function ↔ name = function.planName :=
  find?_name_eq_some_iff fun item => by cases item <;> rfl

theorem Direction.ofName?_eq_some_iff {name : String} {direction : Direction} :
    ofName? name = some direction ↔ name = direction.name :=
  find?_name_eq_some_iff fun item => by cases item <;> rfl

theorem Guard.ofName?_eq_some_iff {name : String} {guard : Guard} :
    ofName? name = some guard ↔ name = guard.name :=
  find?_name_eq_some_iff fun item => by cases item <;> rfl

theorem Comparison.ofSpelling?_eq_some_iff {spelling : String}
    {comparison : Comparison} :
    ofSpelling? spelling = some comparison ↔
      (spelling, comparison) ∈ spellings :=
  lookup_eq_some_iff_mem (by decide)

theorem Value.readMember_text_eq_ok_iff {κ : Type} {ofName? : String → Option κ}
    {name : String} {member : κ} :
    (Value.text name).readMember ofName? = .ok member ↔
      ofName? name = some member := by
  unfold readMember
  simp only [readText]
  cases ofName? name <;> simp [Reading.fail]

theorem CqlFunction.readMember_planName (function : CqlFunction) :
    (Value.text function.planName).readMember ofPlanName? = .ok function :=
  Value.readMember_text_eq_ok_iff.mpr (ofPlanName?_eq_some_iff.mpr rfl)

theorem Comparison.readMember_name (comparison : Comparison) :
    (Value.text comparison.name).readMember ofName? = .ok comparison :=
  Value.readMember_text_eq_ok_iff.mpr (ofName?_eq_some_iff.mpr rfl)

/-! ## The fields that a reader finds -/

namespace Record

variable {α β γ δ : Type} {entries : List (Value × α)}

theorem optional_eq_ok_iff_holds {name : String} {default : β}
    {readField : α → Reading β} {result : β} :
    optional entries name default readField = .ok result ↔
      Slot.Holds (result = default) (fun value => readField value = .ok result)
        (find? name entries) := by
  rw [optional_eq_ok]
  cases find? name entries <;> simp [Slot.Holds]

theorem readSingle_eq_ok {name : String} {readField : α → Reading β}
    {make : β → γ} {result : γ} :
    (read entries [name] (required entries name readField)).map make =
        .ok result ↔
      ∃ value field, find? name entries = some value ∧
        readField value = .ok field ∧ closed entries [name] = .ok () ∧
        make field = result := by
  simp only [Reading.map_eq_ok, read_eq_ok, required_eq_ok]
  constructor
  · rintro ⟨field, ⟨⟨value, found, held⟩, closed⟩, made⟩
    exact ⟨value, field, found, held, closed, made⟩
  · rintro ⟨value, field, found, held, closed, made⟩
    exact ⟨field, ⟨⟨value, found, held⟩, closed⟩, made⟩

theorem readPair_eq_ok {first second : String} {readFirst : α → Reading β}
    {readSecond : α → Reading γ} {make : β × γ → δ} {result : δ} :
    (read entries [first, second] <|
        (required entries first readFirst).both <|
        required entries second readSecond).map make = .ok result ↔
      ∃ value other left right,
        (find? first entries = some value ∧ readFirst value = .ok left) ∧
        (find? second entries = some other ∧ readSecond other = .ok right) ∧
        closed entries [first, second] = .ok () ∧
        make (left, right) = result := by
  simp only [Reading.map_eq_ok, read_eq_ok, Reading.both_eq_ok,
    required_eq_ok]
  constructor
  · rintro ⟨⟨left, right⟩, ⟨⟨⟨value, left_held⟩, other, right_held⟩, closed⟩,
      made⟩
    exact ⟨value, other, left, right, left_held, right_held, closed, made⟩
  · rintro ⟨value, other, left, right, left_held, right_held, closed, made⟩
    exact ⟨(left, right), ⟨⟨⟨value, left_held⟩, other, right_held⟩, closed⟩,
      made⟩

theorem readDefaulted_eq_ok {first second : String} {default : γ}
    {readFirst : α → Reading β} {readSecond : α → Reading γ}
    {make : β × γ → δ} {result : δ} :
    (read entries [first, second] <|
        (required entries first readFirst).both <|
        optional entries second default readSecond).map make = .ok result ↔
      ∃ value left right,
        (find? first entries = some value ∧ readFirst value = .ok left) ∧
        Slot.Holds (right = default)
          (fun other => readSecond other = .ok right) (find? second entries) ∧
        closed entries [first, second] = .ok () ∧
        make (left, right) = result := by
  simp only [Reading.map_eq_ok, read_eq_ok, Reading.both_eq_ok,
    required_eq_ok, optional_eq_ok_iff_holds]
  constructor
  · rintro ⟨⟨left, right⟩, ⟨⟨⟨value, left_held⟩, right_held⟩, closed⟩, made⟩
    exact ⟨value, left, right, left_held, right_held, closed, made⟩
  · rintro ⟨value, left, right, left_held, right_held, closed, made⟩
    exact ⟨(left, right), ⟨⟨⟨value, left_held⟩, right_held⟩, closed⟩, made⟩

end Record

/-! ## Parts -/

namespace Part

variable {β : Type} {entries : List (Value × Value)}

theorem closed_ofEntries (fields : List String) :
    Record.closed (ofEntries entries) fields =
      Record.closed entries fields := by
  rw [ofEntries_eq_map]
  simp [Record.closed, List.filterMap_map]

theorem find?_ofEntries_eq_some_iff {name : String} {part : Part} :
    Record.find? name (ofEntries entries) = some part ↔
      ∃ value, Record.find? name entries = some value ∧ of value = part := by
  rw [find?_ofEntries, Option.map_eq_some_iff]

theorem holds_find?_ofEntries {isDefault : Prop} {spelled : Part → Prop}
    {name : String} :
    Slot.Holds isDefault spelled (Record.find? name (ofEntries entries)) ↔
      Slot.Holds isDefault (fun value => spelled (of value))
        (Record.find? name entries) := by
  rw [find?_ofEntries, Slot.Holds.map_iff]

theorem someOperands_eq_ok_iff {part : Part} {first : Expr}
    {rest : List Expr} :
    part.someOperands = .ok (first, rest) ↔
      part.operands = .ok (first :: rest) := by
  unfold someOperands operands
  cases part.elements with
  | none => simp [Reading.fail]
  | some items =>
      cases items with
      | nil => simp [Reading.fail, Reading.items]
      | cons item items =>
          simp [Reading.both_eq_ok, Reading.under_eq_ok, Reading.items_eq_ok]

end Part

theorem forall₂_imp_of_forall_mem {α β : Type} {related implied : α → β → Prop}
    {property : β → Prop} {items : List α} {values : List β}
    (each : ∀ value ∈ values, property value)
    (held : List.Forall₂ related items values)
    (implies : ∀ item value, property value → related item value →
      implied item value) :
    List.Forall₂ implied items values := by
  induction held with
  | nil => exact .nil
  | cons first rest ih =>
      obtain ⟨firstHolds, restHolds⟩ := List.forall_mem_cons.mp each
      exact .cons (implies _ _ firstHolds first) (ih restHolds)

theorem Reading.items_map_eq_ok_iff {α β : Type} {read : α → Reading β}
    {values : List α} {position : Nat} {items : List β} :
    Reading.items position (values.map read) = .ok items ↔
      List.Forall₂ (fun item value => read value = .ok item) items values := by
  rw [Reading.items_eq_ok, ← List.forall₂_eq_eq_eq,
    List.forall₂_map_left_iff, List.forall₂_map_right_iff]
  exact ⟨List.Forall₂.flip, List.Forall₂.flip⟩

def Expr.ReadFrom (operand : Expr) (value : Value) : Prop :=
  Expr.ofValue value = .ok operand

theorem Part.operands_of_list_eq_ok_iff {items : List Value}
    {operands : List Expr} :
    (Part.of (.list items)).operands = .ok operands ↔
      List.Forall₂ Expr.ReadFrom operands items := by
  have readings : (Part.of (.list items)).operands =
      Reading.items 0 (items.map Expr.ofValue) := by
    simp [Part.of, Part.operands, elements, itemsOf, Expr.ofValues_eq_map]
  rw [readings, Reading.items_map_eq_ok_iff]
  exact Iff.rfl

theorem Part.someOperands_of_list {items : List Value} {first : Expr}
    {rest : List Expr}
    (held : List.Forall₂ Expr.ReadFrom (first :: rest) items) :
    (Part.of (.list items)).someOperands = .ok (first, rest) :=
  Part.someOperands_eq_ok_iff.mpr (Part.operands_of_list_eq_ok_iff.mpr held)

namespace Part

theorem arguments_of_list (items : List Value) :
    (Part.of (.list items)).arguments = .ok items := rfl

theorem template_of_text (text : String) :
    (Part.of (.text text)).template = .ok (.inl text) := rfl

theorem template_of_keywords {entries : List (String × Value)}
    (distinct : (entries.map Prod.fst).Nodup) :
    (Part.of (.mapping (Record.texts entries))).template =
      .ok (.inr entries) := by
  have issues : keywordIssues (Record.texts entries) = [] := by
    rw [keywordIssues, Record.texts, List.flatMap_map, List.flatMap_eq_nil_iff]
    intro entry _
    rfl
  have same : keywords (Record.texts entries) = entries := by
    rw [keywords, Record.texts, List.filterMap_map]
    exact (congrArg _ List.filterMap_some).trans
      (Entries.ofPairs_of_nodup distinct)
  simp [template, Part.of, Value.readText, Reading.fail, issues, same]

end Part

/-! ## Comparisons and null checks -/

namespace NodeKind

variable {entries : List (Value × Part)} {operand : Expr}

private theorem letters_of_has {name : String} {key : Value} {part : Part}
    (present : Record.has name [(key, part)] = true) :
    key.letters? = some name := by
  obtain ⟨entry, member, letters⟩ := Record.has_iff.mp present
  cases List.mem_singleton.mp member
  exact letters

theorem readComparison_of_named
    (read : readNamedComparison entries = .ok operand) :
    NodeKind.compare.read entries = .ok operand := by
  rcases readComparison_eq_or entries with
    same | ⟨key, part, comparison, rfl, found, _⟩
  · exact same.trans read
  · obtain ⟨_, inner, _⟩ := Reading.map_eq_ok.mp read
    have held := (Record.read_eq_ok.mp inner).1
    have letters := letters_of_has
      (Record.has_of_required (Reading.both_eq_ok.mp held).1)
    rw [comparisonOf?, letters] at found
    cases found

theorem readNullCheck_of_named
    (read : readNamedNullCheck entries = .ok operand) :
    NodeKind.nullCheck.read entries = .ok operand := by
  rcases readNullCheck_eq_or entries with
    same | ⟨key, part, negated, rfl, found, _⟩
  · exact same.trans read
  · obtain ⟨_, inner, _⟩ := Reading.map_eq_ok.mp read
    have held := (Record.read_eq_ok.mp inner).1
    have letters := letters_of_has
      (Record.has_of_required (Reading.both_eq_ok.mp held).1)
    rw [negationOf?, letters] at found
    cases found

theorem readNamedComparison_eq_ok :
    readNamedComparison entries = .ok operand ↔
      ∃ comparison left right,
        (∃ part, Record.find? "op" entries = some part ∧
          part.value.readMember Comparison.ofName? = .ok comparison) ∧
        (∃ part, Record.find? "left" entries = some part ∧
          part.operand = .ok left) ∧
        (∃ part, Record.find? "right" entries = some part ∧
          part.operand = .ok right) ∧
        Record.closed entries ["op", "left", "right"] = .ok () ∧
        operand = .compare comparison left right := by
  unfold readNamedComparison
  simp only [Reading.map_eq_ok, Record.read_eq_ok, Reading.both_eq_ok,
    Record.required_eq_ok]
  constructor
  · rintro ⟨⟨comparison, left, right⟩,
      ⟨⟨foundName, foundLeft, foundRight⟩, closed⟩, rfl⟩
    exact ⟨_, _, _, foundName, foundLeft, foundRight, closed, rfl⟩
  · rintro ⟨comparison, left, right, foundName, foundLeft, foundRight, closed,
      rfl⟩
    exact ⟨(comparison, left, right),
      ⟨⟨foundName, foundLeft, foundRight⟩, closed⟩, rfl⟩

end NodeKind

theorem NodeKind.exists_of_readSpelled {key value : Value}
    {comparison : Comparison} {operand : Expr}
    (read : readSpelled key comparison (Part.of value) = .ok operand) :
    ∃ left right, operand = .compare comparison left right ∧
      (Part.of value).operands = .ok [left, right] := by
  unfold readSpelled at read
  split at read
  · next first second items =>
    obtain ⟨⟨left, right⟩, both, rfl⟩ := Reading.map_eq_ok.mp read
    obtain ⟨leftRead, rightRead⟩ := Reading.both_eq_ok.mp both
    refine ⟨left, right, rfl, ?_⟩
    rw [Part.operands, Part.elements, items, Reading.under_eq_ok.mp leftRead,
      Reading.under_eq_ok.mp rightRead]
    rfl
  · cases read

end StructuredCql
