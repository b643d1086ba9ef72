import StructuredCql.Proofs.Spelling.Readers

/-!
# Spellings of expressions

Every spelling of an expression is read as the expression, and what is read
from data as JSON holds it is a spelling of the expression that it is read as.
The first statement goes by induction on the spelling, the second one by
induction on the data.
-/

namespace StructuredCql

/-! ## Spellings are read -/

theorem Record.Spelled.exists_parts {slots : List (String × Option Value)}
    {value : Value} (spelled : Record.Spelled slots value)
    (distinct : (slots.map Prod.fst).Nodup) :
    ∃ entries, value = .mapping entries ∧
      slots.Forall (fun slot =>
        Record.find? slot.1 (Part.ofEntries entries) = slot.2.map Part.of) ∧
      Record.closed (Part.ofEntries entries) (slots.map Prod.fst) =
        .ok () := by
  obtain ⟨entries, rfl, found, closed⟩ := spelled.exists_entries distinct
  refine ⟨entries, rfl, ?_, ?_⟩
  · refine found.imp fun slot found => ?_
    rw [Part.find?_ofEntries, found]
  · rw [Part.closed_ofEntries, closed]

theorem FlagSpelling.readBool_eq_ok {lax flag : Bool} {value : Value}
    (spelled : FlagSpelling lax flag value) : value.readBool = .ok flag := by
  rcases spelled with rfl | ⟨_, read⟩
  · rfl
  · exact read

theorem Expr.readFrom_of_read (kind : NodeKind) {operand : Expr}
    {entries : List (Value × Value)}
    (read : kind.read (Part.ofEntries entries) = .ok operand) :
    operand.ReadFrom (.mapping entries) :=
  Expr.ofValue_mapping_of_read read

section Read

variable {lax : Bool}

private theorem readFrom_compare_by_key {comparison : Comparison}
    {left right : Expr} {first second : Value} {key : String}
    (listed : (key, comparison) ∈ Comparison.spellings)
    (left_read : left.ReadFrom first) (right_read : right.ReadFrom second) :
    (Expr.compare comparison left right).ReadFrom
      (.mapping [(.text key, .list [first, second])]) := by
  have found : NodeKind.comparisonOf? (.text key) = some comparison :=
    Comparison.ofSpelling?_eq_some_iff.mpr listed
  apply Expr.readFrom_of_read .compare
  rw [NodeKind.read, Part.ofEntries_eq_map]
  simp only [List.map_cons, List.map_nil, NodeKind.readComparison, found,
    NodeKind.readSpelled, Part.itemsOf, Expr.ofValues]
  rw [left_read, right_read]
  rfl

private theorem readFrom_nullCheck_by_key {operand : Expr} {negated : Bool}
    {part : Value} {key : String} (listed : (key, negated) ∈ nullCheckSpellings)
    (held : operand.ReadFrom part) :
    (Expr.nullCheck operand negated).ReadFrom
      (.mapping [(.text key, part)]) := by
  have found : NodeKind.negationOf? (.text key) = some negated :=
    (lookup_eq_some_iff_mem (by decide)).mpr listed
  apply Expr.readFrom_of_read .nullCheck
  rw [NodeKind.read, Part.ofEntries_eq_map]
  simp only [List.map_cons, List.map_nil, NodeKind.readNullCheck, found]
  rw [held]
  rfl

mutual

theorem Expr.readFrom_of_spelling {operand : Expr} {value : Value} :
    operand.Spelling lax value → operand.ReadFrom value
  | .column record => by
      obtain ⟨entries, rfl, found, closed⟩ := record.exists_parts (by simp)
      exact readFrom_of_read .column <|
        Record.readSingle_eq_ok.mpr ⟨_, _, found, rfl, closed, rfl⟩
  | .literal record => by
      obtain ⟨entries, rfl, found, closed⟩ := record.exists_parts (by simp)
      exact readFrom_of_read .literal <|
        Record.readSingle_eq_ok.mpr ⟨_, _, found, rfl, closed, rfl⟩
  | .param record => by
      obtain ⟨entries, rfl, found, closed⟩ := record.exists_parts (by simp)
      exact readFrom_of_read .param <|
        Record.readSingle_eq_ok.mpr ⟨_, _, found, rfl, closed, rfl⟩
  | .call spelled held record => by
      have args := readFrom_of_spellings spelled
      obtain ⟨entries, rfl, ⟨foundFunction, foundArgs⟩, closed⟩ :=
        record.exists_parts (by simp)
      refine readFrom_of_read .call <| Record.readDefaulted_eq_ok.mpr
        ⟨_, _, _, ⟨foundFunction, CqlFunction.readMember_planName _⟩,
          held.of_map foundArgs ?_, closed, rfl⟩
      rintro _ rfl
      exact Part.operands_of_list_eq_ok_iff.mpr args
  | .cast spelled record => by
      have held := readFrom_of_spelling spelled
      obtain ⟨entries, rfl, ⟨foundOperand, foundType⟩, closed⟩ :=
        record.exists_parts (by simp)
      exact readFrom_of_read .cast <| Record.readPair_eq_ok.mpr
        ⟨_, _, _, _, ⟨foundOperand, held⟩, ⟨foundType, rfl⟩, closed, rfl⟩
  | .blob spelled record => by
      have held := readFrom_of_spelling spelled
      obtain ⟨entries, rfl, ⟨foundOperand, foundType⟩, closed⟩ :=
        record.exists_parts (by simp)
      exact readFrom_of_read .blob <| Record.readPair_eq_ok.mpr
        ⟨_, _, _, _, ⟨foundOperand, held⟩, ⟨foundType, rfl⟩, closed, rfl⟩
  | .fragment held record => by
      obtain ⟨entries, rfl, ⟨foundTemplate, foundArgs⟩, closed⟩ :=
        record.exists_parts (by simp)
      refine readFrom_of_read .fragment <| Record.readDefaulted_eq_ok.mpr
        ⟨_, _, _, ⟨foundTemplate, Part.template_of_text _⟩,
          held.of_map foundArgs ?_, closed, rfl⟩
      rintro _ rfl
      exact Part.arguments_of_list _
  | .keywords distinct held record => by
      obtain ⟨entries, rfl, ⟨foundTemplate, foundArgs⟩, closed⟩ :=
        record.exists_parts (by simp)
      refine readFrom_of_read .fragment <| Record.readDefaulted_eq_ok.mpr
        ⟨_, _, _, ⟨foundTemplate, Part.template_of_keywords distinct⟩,
          held.of_map foundArgs ?_, closed, rfl⟩
      rintro _ rfl
      exact Part.arguments_of_list _
  | .compare leftSpelled rightSpelled record => by
      have left := readFrom_of_spelling leftSpelled
      have right := readFrom_of_spelling rightSpelled
      obtain ⟨entries, rfl, ⟨foundName, foundLeft, foundRight⟩, closed⟩ :=
        record.exists_parts (by simp)
      exact readFrom_of_read .compare <| NodeKind.readComparison_of_named <|
        NodeKind.readNamedComparison_eq_ok.mpr ⟨_, _, _,
          ⟨_, foundName, Comparison.readMember_name _⟩, ⟨_, foundLeft, left⟩,
          ⟨_, foundRight, right⟩, closed, rfl⟩
  | .compare_by_key listed left right =>
      readFrom_compare_by_key listed (readFrom_of_spelling left)
        (readFrom_of_spelling right)
  | .and spelled record => by
      have held := readFrom_of_spellings spelled
      obtain ⟨entries, rfl, found, closed⟩ := record.exists_parts (by simp)
      exact readFrom_of_read .and <| Record.readSingle_eq_ok.mpr
        ⟨_, _, found, Part.someOperands_of_list held, closed, rfl⟩
  | .or spelled record => by
      have held := readFrom_of_spellings spelled
      obtain ⟨entries, rfl, found, closed⟩ := record.exists_parts (by simp)
      exact readFrom_of_read .or <| Record.readSingle_eq_ok.mpr
        ⟨_, _, found, Part.someOperands_of_list held, closed, rfl⟩
  | .not spelled record => by
      have held := readFrom_of_spelling spelled
      obtain ⟨entries, rfl, found, closed⟩ := record.exists_parts (by simp)
      exact readFrom_of_read .not <|
        Record.readSingle_eq_ok.mpr ⟨_, _, found, held, closed, rfl⟩
  | .membership spelled record => by
      have held := readFrom_of_spellings spelled
      obtain ⟨entries, rfl, found, closed⟩ := record.exists_parts (by simp)
      exact readFrom_of_read .membership <| Record.readSingle_eq_ok.mpr
        ⟨_, _, found, Part.someOperands_of_list held, closed, rfl⟩
  | .nullCheck spelled flag record => by
      have held := readFrom_of_spelling spelled
      obtain ⟨entries, rfl, ⟨foundOperand, foundFlag⟩, closed⟩ :=
        record.exists_parts (by simp)
      exact readFrom_of_read .nullCheck <| NodeKind.readNullCheck_of_named <|
        Record.readDefaulted_eq_ok.mpr ⟨_, _, _, ⟨foundOperand, held⟩,
          flag.of_map foundFlag fun _ spelled => spelled.readBool_eq_ok,
          closed, rfl⟩
  | .nullCheck_by_key listed spelled =>
      readFrom_nullCheck_by_key listed (readFrom_of_spelling spelled)

theorem Expr.readFrom_of_spellings {operands : List Expr}
    {values : List Value} :
    List.Forall₂ (Expr.Spelling lax) operands values →
      List.Forall₂ Expr.ReadFrom operands values
  | .nil => .nil
  | .cons first rest =>
      .cons (readFrom_of_spelling first) (readFrom_of_spellings rest)

end

end Read

/-! ## Data that is read is a spelling -/

namespace Value.IsJson

variable {value : Value}

theorem readText_eq_ok (json : value.IsJson) {text : String}
    (read : value.readText = .ok text) : value = .text text := by
  cases json <;> cases read
  rfl

theorem readMember_eq_ok (json : value.IsJson) {κ : Type}
    {ofName? : String → Option κ} {member : κ}
    (read : value.readMember ofName? = .ok member) :
    ∃ name, value = .text name ∧ ofName? name = some member := by
  unfold readMember at read
  split at read
  · next name text =>
    have same := json.readText_eq_ok text
    split at read
    · next found =>
      cases read
      exact ⟨name, same, found⟩
    · cases read
  · cases read

theorem arguments_eq_ok (json : value.IsJson) {args : List Value}
    (read : (Part.of value).arguments = .ok args) : value = .list args := by
  cases json <;> cases read
  rfl

theorem template_eq_ok (json : value.IsJson)
    {template : String ⊕ List (String × Value)}
    (read : (Part.of value).template = .ok template) :
    (∃ text, value = .text text ∧ template = .inl text) ∨
      ∃ entries, (entries.map Prod.fst).Nodup ∧
        value = .mapping (Record.texts entries) ∧ template = .inr entries := by
  cases json with
  | text text =>
      cases read
      exact .inl ⟨text, rfl, rfl⟩
  | mapping distinct each =>
      rw [Part.template_of_keywords distinct] at read
      cases read
      exact .inr ⟨_, distinct, rfl, rfl⟩
  | _ => cases read

end Value.IsJson

structure Value.Recovered (value : Value) : Prop where
  operand : ∀ operand : Expr, operand.ReadFrom value →
    operand.Spelling true value
  operands : ∀ operands, (Part.of value).operands = .ok operands →
    ∃ items, value = .list items ∧
      List.Forall₂ (Expr.Spelling true) operands items

theorem Record.spelled_of_parts {fields : List (String × Value)}
    {slots : List (String × Option Value)}
    (distinct : (fields.map Prod.fst).Nodup)
    (slotsDistinct : (slots.map Prod.fst).Nodup)
    (found : slots.Forall fun slot =>
      Record.find? slot.1 (Record.texts fields) = slot.2)
    (closed : Record.closed (Part.ofEntries (Record.texts fields))
      (slots.map Prod.fst) = .ok ()) :
    Record.Spelled slots (.mapping (Record.texts fields)) :=
  Record.spelled_of_found slotsDistinct distinct found
    (Part.closed_ofEntries _ ▸ closed)

namespace NodeKind

open Record

section Fields

variable {fields : List (String × Value)} {operand : Expr}
  (distinct : (fields.map Prod.fst).Nodup)
  (each : ∀ field ∈ fields, field.2.IsJson ∧ field.2.Recovered)

include distinct each

private theorem exists_value {name : String} {part : Part}
    (found : find? name (Part.ofEntries (texts fields)) = some part) :
    ∃ value, find? name (texts fields) = some value ∧ part = Part.of value ∧
      value.IsJson ∧ value.Recovered := by
  obtain ⟨value, held, rfl⟩ := Part.find?_ofEntries_eq_some_iff.mp found
  obtain ⟨json, recovered⟩ :=
    each _ ((find?_texts_eq_some_iff distinct).mp held)
  exact ⟨value, held, rfl, json, recovered⟩

private theorem holds_value {isDefault : Prop} {spelled : Part → Prop}
    {name : String}
    (held : Slot.Holds isDefault spelled
      (find? name (Part.ofEntries (texts fields)))) :
    Slot.Holds isDefault
      (fun value => spelled (Part.of value) ∧ value.IsJson ∧ value.Recovered)
      (find? name (texts fields)) := by
  cases found : find? name (texts fields) with
  | none =>
      rw [Part.find?_ofEntries, found] at held
      exact held
  | some value =>
      rw [Part.find?_ofEntries, found] at held
      exact ⟨held, each _ ((find?_texts_eq_some_iff distinct).mp found)⟩

private theorem exists_items {name : String} {args : List Expr}
    (held : Slot.Holds (args = []) (fun part => part.operands = .ok args)
      (find? name (Part.ofEntries (texts fields)))) :
    ∃ items, List.Forall₂ (Expr.Spelling true) args items ∧
      Slot.Holds (args = []) (· = .list items) (find? name (texts fields)) := by
  have held := holds_value distinct each held
  cases found : find? name (texts fields) with
  | none =>
      rw [found] at held
      exact ⟨[], by rw [held]; exact .nil, held⟩
  | some value =>
      rw [found] at held
      obtain ⟨read, _, recovered⟩ := held
      obtain ⟨items, rfl, spelled⟩ := recovered.operands _ read
      exact ⟨items, spelled, rfl⟩

private theorem holds_arguments {name : String} {args : List Value}
    (held : Slot.Holds (args = []) (fun part => part.arguments = .ok args)
      (find? name (Part.ofEntries (texts fields)))) :
    Slot.Holds (args = []) (· = .list args) (find? name (texts fields)) := by
  have held := holds_value distinct each held
  cases found : find? name (texts fields) with
  | none =>
      rw [found] at held
      exact held
  | some value =>
      rw [found] at held
      exact held.2.1.arguments_eq_ok held.1

private theorem exists_single {key : Value} {part : Part}
    (single : Part.ofEntries (texts fields) = [(key, part)]) :
    ∃ name value, texts fields = [(.text name, value)] ∧ key = .text name ∧
      part = Part.of value ∧ value.IsJson ∧ value.Recovered := by
  obtain ⟨_, entries, rfl⟩ := Part.ofEntries_eq_singleton single
  obtain ⟨⟨name, value⟩, rfl, same⟩ := List.map_eq_singleton_iff.mp entries
  cases same
  exact ⟨name, value, rfl, rfl, rfl, each _ List.mem_cons_self⟩

private theorem spelling_of_call
    (read : NodeKind.call.read (Part.ofEntries (texts fields)) = .ok operand) :
    operand.Spelling true (.mapping (texts fields)) := by
  obtain ⟨part, function, args, ⟨foundPart, named⟩, held, closed, rfl⟩ :=
    readDefaulted_eq_ok.mp read
  obtain ⟨value, found, rfl, json, _⟩ := exists_value distinct each foundPart
  obtain ⟨name, rfl, known⟩ := json.readMember_eq_ok named
  obtain rfl := CqlFunction.ofPlanName?_eq_some_iff.mp known
  obtain ⟨items, spelled, slot⟩ := exists_items distinct each held
  exact .call spelled slot
    (spelled_of_parts distinct (by simp) ⟨found, rfl⟩ closed)

private theorem exists_conversion {name : String}
    {make : Expr → String → Expr} (different : name ≠ "type")
    (read : readConversion (Part.ofEntries (texts fields)) name make =
      .ok operand) :
    ∃ inner typeName part, operand = make inner typeName ∧
      inner.Spelling true part ∧
      Spelled [(name, some part), ("type", some (.text typeName))]
        (.mapping (texts fields)) := by
  obtain ⟨_, _, inner, typeName, ⟨foundOperand, held⟩, ⟨foundType, typed⟩,
    closed, rfl⟩ := readPair_eq_ok.mp read
  obtain ⟨part, found, rfl, _, recovered⟩ :=
    exists_value distinct each foundOperand
  obtain ⟨value, foundText, rfl, json, _⟩ :=
    exists_value distinct each foundType
  obtain rfl := json.readText_eq_ok typed
  exact ⟨inner, typeName, part, rfl, recovered.operand _ held,
    spelled_of_parts distinct (by simpa using different) ⟨found, foundText⟩
      closed⟩

private theorem exists_junction {name : String} {make : Expr → List Expr → Expr}
    (read : readJunction (Part.ofEntries (texts fields)) name make =
      .ok operand) :
    ∃ first rest items, operand = make first rest ∧
      List.Forall₂ (Expr.Spelling true) (first :: rest) items ∧
      Spelled [(name, some (.list items))] (.mapping (texts fields)) := by
  obtain ⟨_, ⟨first, rest⟩, foundPart, held, closed, rfl⟩ :=
    readSingle_eq_ok.mp read
  obtain ⟨value, found, rfl, _, recovered⟩ :=
    exists_value distinct each foundPart
  obtain ⟨items, rfl, spelled⟩ :=
    recovered.operands _ (Part.someOperands_eq_ok_iff.mp held)
  exact ⟨first, rest, items, rfl, spelled,
    spelled_of_parts distinct (by simp) found closed⟩

private theorem spelling_of_fragment
    (read : NodeKind.fragment.read (Part.ofEntries (texts fields)) =
      .ok operand) :
    operand.Spelling true (.mapping (texts fields)) := by
  obtain ⟨_, template, args, ⟨foundPart, read⟩, held, closed, rfl⟩ :=
    readDefaulted_eq_ok.mp read
  obtain ⟨value, found, rfl, json, _⟩ := exists_value distinct each foundPart
  have slot := holds_arguments distinct each held
  rcases json.template_eq_ok read with
    ⟨text, rfl, rfl⟩ | ⟨entries, entriesDistinct, rfl, rfl⟩
  · exact .fragment slot
      (spelled_of_parts distinct (by simp) ⟨found, rfl⟩ closed)
  · exact .keywords entriesDistinct slot
      (spelled_of_parts distinct (by simp) ⟨found, rfl⟩ closed)

private theorem spelling_of_namedComparison
    (read : readNamedComparison (Part.ofEntries (texts fields)) =
      .ok operand) :
    operand.Spelling true (.mapping (texts fields)) := by
  obtain ⟨comparison, left, right, ⟨_, foundName, named⟩,
    ⟨_, foundLeft, leftHeld⟩, ⟨_, foundRight, rightHeld⟩, closed, rfl⟩ :=
    readNamedComparison_eq_ok.mp read
  obtain ⟨value, found, rfl, json, _⟩ := exists_value distinct each foundName
  obtain ⟨name, rfl, known⟩ := json.readMember_eq_ok named
  obtain rfl := Comparison.ofName?_eq_some_iff.mp known
  obtain ⟨first, foundFirst, rfl, _, firstRecovered⟩ :=
    exists_value distinct each foundLeft
  obtain ⟨second, foundSecond, rfl, _, secondRecovered⟩ :=
    exists_value distinct each foundRight
  exact .compare (firstRecovered.operand _ leftHeld)
    (secondRecovered.operand _ rightHeld)
    (spelled_of_parts distinct (by simp) ⟨found, foundFirst, foundSecond⟩
      closed)

private theorem spelling_of_comparison
    (read : NodeKind.compare.read (Part.ofEntries (texts fields)) =
      .ok operand) :
    operand.Spelling true (.mapping (texts fields)) := by
  rcases readComparison_eq_or (Part.ofEntries (texts fields)) with
    named | ⟨key, part, comparison, single, found, spelled⟩
  · exact spelling_of_namedComparison distinct each (named.symm.trans read)
  · obtain ⟨name, value, entries, rfl, rfl, _, recovered⟩ :=
      exists_single distinct each single
    obtain ⟨left, right, rfl, operands⟩ :=
      exists_of_readSpelled (spelled.symm.trans read)
    obtain ⟨items, rfl, sides⟩ := recovered.operands _ operands
    cases sides with
    | cons first rest =>
        cases rest with
        | cons second rest =>
            cases rest
            rw [entries]
            exact .compare_by_key
              (Comparison.ofSpelling?_eq_some_iff.mp found) first second

private theorem spelling_of_nullCheck
    (read : NodeKind.nullCheck.read (Part.ofEntries (texts fields)) =
      .ok operand) :
    operand.Spelling true (.mapping (texts fields)) := by
  rcases readNullCheck_eq_or (Part.ofEntries (texts fields)) with
    named | ⟨key, part, negated, single, found, spelled⟩
  · obtain ⟨_, inner, negated, ⟨foundPart, read⟩, held, closed, rfl⟩ :=
      readDefaulted_eq_ok.mp (named.symm.trans read)
    obtain ⟨value, found, rfl, _, recovered⟩ :=
      exists_value distinct each foundPart
    have flag : Slot.Holds (negated = false) (FlagSpelling true negated)
        (find? "negated" (texts fields)) :=
      (Part.holds_find?_ofEntries.mp held).imp fun _ read => .inr ⟨rfl, read⟩
    exact .nullCheck (recovered.operand _ read) flag
      (spelled_of_parts distinct (by simp) ⟨found, rfl⟩ closed)
  · obtain ⟨name, value, entries, rfl, rfl, _, recovered⟩ :=
      exists_single distinct each single
    obtain ⟨inner, held, rfl⟩ :=
      Reading.map_eq_ok.mp (spelled.symm.trans read)
    have held := recovered.operand inner (Reading.under_eq_ok.mp held)
    rw [entries]
    exact .nullCheck_by_key (mem_of_lookup found) held

theorem spelling_of_read {kind : NodeKind}
    (read : kind.read (Part.ofEntries (texts fields)) = .ok operand) :
    operand.Spelling true (.mapping (texts fields)) := by
  cases kind with
  | column =>
      obtain ⟨_, name, foundPart, held, closed, rfl⟩ :=
        readSingle_eq_ok.mp read
      obtain ⟨value, found, rfl, json, _⟩ :=
        exists_value distinct each foundPart
      obtain rfl := json.readText_eq_ok held
      exact .column (spelled_of_parts distinct (by simp) found closed)
  | literal =>
      obtain ⟨_, _, foundPart, held, closed, rfl⟩ := readSingle_eq_ok.mp read
      obtain ⟨value, found, rfl, _, _⟩ := exists_value distinct each foundPart
      cases held
      exact .literal (spelled_of_parts distinct (by simp) found closed)
  | param =>
      obtain ⟨_, _, foundPart, held, closed, rfl⟩ := readSingle_eq_ok.mp read
      obtain ⟨value, found, rfl, _, _⟩ := exists_value distinct each foundPart
      cases held
      exact .param (spelled_of_parts distinct (by simp) found closed)
  | call => exact spelling_of_call distinct each read
  | cast =>
      obtain ⟨inner, typeName, part, rfl, spelled, record⟩ :=
        exists_conversion distinct each (by decide) read
      exact .cast spelled record
  | blob =>
      obtain ⟨inner, typeName, part, rfl, spelled, record⟩ :=
        exists_conversion distinct each (by decide) read
      exact .blob spelled record
  | fragment => exact spelling_of_fragment distinct each read
  | compare => exact spelling_of_comparison distinct each read
  | and =>
      obtain ⟨first, rest, items, rfl, spelled, record⟩ :=
        exists_junction distinct each read
      exact .and spelled record
  | or =>
      obtain ⟨first, rest, items, rfl, spelled, record⟩ :=
        exists_junction distinct each read
      exact .or spelled record
  | not =>
      obtain ⟨_, inner, foundPart, held, closed, rfl⟩ :=
        readSingle_eq_ok.mp read
      obtain ⟨value, found, rfl, _, recovered⟩ :=
        exists_value distinct each foundPart
      exact .not (recovered.operand inner held)
        (spelled_of_parts distinct (by simp) found closed)
  | membership =>
      obtain ⟨first, rest, items, rfl, spelled, record⟩ :=
        exists_junction distinct each read
      exact .membership spelled record
  | nullCheck => exact spelling_of_nullCheck distinct each read

end Fields

end NodeKind

theorem Value.IsJson.recovered {value : Value} (json : value.IsJson) :
    value.Recovered := by
  induction json with
  | null | bool | int | float | text =>
      constructor
      · intro operand read
        cases read
      · intro operands read
        cases read
  | list each ih =>
      constructor
      · intro operand read
        cases read
      · intro operands read
        have held := Part.operands_of_list_eq_ok_iff.mp read
        exact ⟨_, rfl, forall₂_imp_of_forall_mem ih held
          fun operand item recovered read => recovered.operand operand read⟩
  | mapping distinct each ih =>
      constructor
      · intro operand read
        obtain ⟨kind, _, read⟩ := Expr.ofValue_mapping_eq_ok.mp read
        exact NodeKind.spelling_of_read distinct
          (fun field member => ⟨each field member, ih field member⟩) read
      · intro operands read
        cases read

end StructuredCql
