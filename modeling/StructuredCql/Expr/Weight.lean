import StructuredCql.Expr.Reading

/-!
# The weight of expressions and values

Rendering a fragment reads its arguments first, so the expressions that are
rendered are not parts of the fragment.  They weigh no more than the values
that they are read from, though, and that is why rendering ends.  Leaves have
weight one, whatever value they hold, and an argument that cannot be read as an
expression weighs nothing.
-/

namespace StructuredCql

mutual

def Value.weight : Value → Nat
  | .list items => 1 + Value.weightAll items
  | .tuple items => 1 + Value.weightAll items
  | .mapping entries => 1 + Value.weightEntries entries
  | .expr operand => operand.weight
  | .assignment change => change.weight
  | .orderItem operand _ => operand.weight
  | _ => 1

def Value.weightAll : List Value → Nat
  | [] => 0
  | value :: rest => 1 + value.weight + Value.weightAll rest

def Value.weightEntries : List (Value × Value) → Nat
  | [] => 0
  | (_, value) :: rest => 1 + value.weight + Value.weightEntries rest

def Value.argumentWeight : Value → Nat
  | .mapping entries => 1 + Value.weightEntries entries
  | .expr operand => operand.weight
  | _ => 0

def Value.argumentWeights : List Value → Nat
  | [] => 0
  | value :: rest => value.argumentWeight + Value.argumentWeights rest

def Expr.weight : Expr → Nat
  | .column _ | .literal _ | .param _ => 1
  | .call _ args => 1 + Expr.weightAll args
  | .cast operand _ | .blob operand _ => 1 + operand.weight
  | .fragment _ args => 1 + Value.argumentWeights args
  | .keywords _ args => 1 + Value.argumentWeights args
  | .compare _ left right => 1 + left.weight + right.weight
  | .and first rest | .or first rest =>
      1 + first.weight + Expr.weightAll rest
  | .not operand => 1 + operand.weight
  | .membership operand values =>
      1 + operand.weight + Expr.weightAll values
  | .nullCheck operand _ => 1 + operand.weight

def Expr.weightAll : List Expr → Nat
  | [] => 0
  | operand :: rest => 1 + operand.weight + Expr.weightAll rest

def Assignment.weight : Assignment → Nat
  | .set _ value => 1 + value.weight
  | .increment _ amount => 1 + amount.weight

end

theorem Value.argumentWeight_le (value : Value) :
    value.argumentWeight ≤ value.weight := by
  cases value <;> simp [Value.argumentWeight, Value.weight]

theorem Value.argumentWeights_le (values : List Value) :
    Value.argumentWeights values ≤ Value.weightAll values := by
  induction values with
  | nil => simp [Value.argumentWeights]
  | cons value rest ih =>
      have := value.argumentWeight_le
      simp only [Value.argumentWeights, Value.weightAll]
      omega

theorem Value.argumentWeight_le_of_mem {value : Value} {values : List Value}
    (member : value ∈ values) :
    value.argumentWeight ≤ Value.argumentWeights values := by
  induction values with
  | nil => cases member
  | cons first rest ih =>
      simp only [Value.argumentWeights]
      rcases List.mem_cons.mp member with rfl | member
      · omega
      · have := ih member
        omega

theorem Expr.weight_lt_of_mem {operand : Expr} {operands : List Expr}
    (member : operand ∈ operands) :
    operand.weight < Expr.weightAll operands := by
  induction operands with
  | nil => cases member
  | cons first rest ih =>
      simp only [Expr.weightAll]
      rcases List.mem_cons.mp member with rfl | member
      · omega
      · have := ih member
        omega

theorem Expr.one_le_weight (operand : Expr) : 1 ≤ operand.weight := by
  cases operand <;> simp only [Expr.weight] <;> omega

theorem Value.argumentWeights_pairs (fields : List (String × Value)) :
    Value.argumentWeights
      (fields.map fun field => .tuple [.text field.1, field.2]) = 0 := by
  induction fields with
  | nil => rfl
  | cons field rest ih => simp [Value.argumentWeights, Value.argumentWeight, ih]

/-! ## What a reading weighs -/

theorem Part.itemsOf_eq_some {value : Value} {items : List (Reading Expr)}
    (found : Part.itemsOf value = some items) :
    ∃ values, items = values.map Expr.ofValue ∧
      value.weight = 1 + Value.weightAll values := by
  cases value <;> simp [Part.itemsOf] at found
  all_goals
    subst found
    exact ⟨_, Expr.ofValues_eq_map _, by simp [Value.weight]⟩

theorem Part.ofEntries_eq_singleton {entries : List (Value × Value)}
    {key : Value} {part : Part}
    (single : Part.ofEntries entries = [(key, part)]) :
    ∃ value, entries = [(key, value)] ∧ part = Part.of value := by
  rw [Part.ofEntries_eq_map] at single
  obtain ⟨⟨_, value⟩, rfl, same⟩ := List.map_eq_singleton_iff.mp single
  cases same
  exact ⟨value, rfl, rfl⟩

theorem weight_le_of_mem {value : Value} {values : List Value}
    (member : value ∈ values) :
    1 + value.weight ≤ Value.weightAll values := by
  induction values with
  | nil => cases member
  | cons first rest ih =>
      simp only [Value.weightAll]
      rcases List.mem_cons.mp member with rfl | member
      · omega
      · have := ih member
        omega

theorem weight_le_of_find? {name : String} {entries : List (Value × Value)}
    {value : Value} (found : Record.find? name entries = some value) :
    1 + value.weight ≤ Value.weightEntries entries := by
  induction entries with
  | nil => simp [Record.find?] at found
  | cons entry rest ih =>
      obtain ⟨key, first⟩ := entry
      simp only [Record.find?] at found
      simp only [Value.weightEntries]
      split at found
      · cases found
        omega
      · have := ih found
        omega

private theorem isKey_unique {first second : String} {key : Value}
    (isFirst : key.isKey first = true) (isSecond : key.isKey second = true) :
    first = second := by
  rw [Value.isKey_iff] at isFirst isSecond
  exact Option.some.inj (isFirst.symm.trans isSecond)

theorem weights_le_of_find? {first second : String}
    {entries : List (Value × Value)} {left right : Value}
    (distinct : first ≠ second)
    (foundLeft : Record.find? first entries = some left)
    (foundRight : Record.find? second entries = some right) :
    2 + left.weight + right.weight ≤ Value.weightEntries entries := by
  induction entries with
  | nil => simp [Record.find?] at foundLeft
  | cons entry rest ih =>
      obtain ⟨key, value⟩ := entry
      simp only [Record.find?] at foundLeft foundRight
      simp only [Value.weightEntries]
      split at foundLeft
      · next isFirst =>
        split at foundRight
        · next isSecond => exact absurd (isKey_unique isFirst isSecond) distinct
        · cases foundLeft
          have := weight_le_of_find? foundRight
          omega
      · split at foundRight
        · cases foundRight
          have := weight_le_of_find? foundLeft
          omega
        · have := ih foundLeft foundRight
          omega

def ReadsWithin (value : Value) : Prop :=
  ∀ operand, Expr.ofValue value = .ok operand → operand.weight ≤ value.weight

private theorem weightOfExprs_le {values : List Value} {operands : List Expr}
    (within : ∀ value ∈ values, ReadsWithin value)
    (same : values.map Expr.ofValue = operands.map Except.ok) :
    Expr.weightAll operands ≤ Value.weightAll values := by
  induction values generalizing operands with
  | nil =>
      cases operands with
      | nil => simp [Expr.weightAll]
      | cons _ _ => simp at same
  | cons value values ih =>
      cases operands with
      | nil => simp at same
      | cons operand operands =>
          simp only [List.map_cons, List.cons.injEq] at same
          have first := within value (by simp) operand same.1
          have rest := ih (fun v member => within v (by simp [member])) same.2
          simp only [Expr.weightAll, Value.weightAll]
          omega

namespace Part

private theorem items_eq_of_elements {value : Value} {operands : List Expr}
    {items : List (Reading Expr)} (found : (of value).elements = some items)
    (same : items = operands.map Except.ok) :
    (of value).items = some items := by
  unfold elements at found
  cases listed : (of value).items with
  | some _ => simpa [listed] using found
  | none =>
      rw [listed, Option.none_or, Option.map_eq_some_iff] at found
      obtain ⟨fields, record, rfl⟩ := found
      cases fields with
      | nil => exact absurd record value.fields?_ne_nil
      | cons _ _ => cases operands <;> simp [Reading.fail] at same

private theorem weightOfExprs_le_of_items {value : Value}
    {operands : List Expr}
    (within : ∀ part, part.weight < value.weight → ReadsWithin part)
    {items : List (Reading Expr)} (found : (of value).items = some items)
    (same : items = operands.map Except.ok) :
    1 + Expr.weightAll operands ≤ value.weight := by
  obtain ⟨values, rfl, weight⟩ := Part.itemsOf_eq_some found
  have bound : Expr.weightAll operands ≤ Value.weightAll values :=
    weightOfExprs_le
      (fun part member => within part (by
        have := weight_le_of_mem member
        omega))
      same
  omega

private theorem operands_weight {value : Value} {operands : List Expr}
    (within : ∀ part, part.weight < value.weight → ReadsWithin part)
    (read : (of value).operands = .ok operands) :
    1 + Expr.weightAll operands ≤ value.weight := by
  unfold Part.operands at read
  split at read
  · next items found =>
    have same := Reading.items_eq_ok.mp read
    exact weightOfExprs_le_of_items within (items_eq_of_elements found same)
      same
  · simp [Reading.fail] at read

private theorem someOperands_weight {value : Value} {first : Expr}
    {rest : List Expr}
    (within : ∀ part, part.weight < value.weight → ReadsWithin part)
    (read : (of value).someOperands = .ok (first, rest)) :
    2 + first.weight + Expr.weightAll rest ≤ value.weight := by
  unfold Part.someOperands at read
  split at read
  · next item items found =>
    obtain ⟨readFirst, readRest⟩ := Reading.both_eq_ok.mp read
    have same : item :: items = (first :: rest).map Except.ok := by
      simp [Reading.under_eq_ok.mp readFirst, Reading.items_eq_ok.mp readRest]
    have := weightOfExprs_le_of_items within
      (items_eq_of_elements found same) same
    simp only [Expr.weightAll] at this
    omega
  · simp [Reading.fail] at read
  · simp [Reading.fail] at read

private theorem one_le_weight_of_record {value : Value}
    {fields : List (String × Value)} (record : value.fields? = some fields) :
    1 ≤ value.weight := by
  cases value with
  | expr operand => exact operand.one_le_weight
  | assignment change =>
      cases change <;> simp only [Value.weight, Assignment.weight] <;> omega
  | orderItem operand => exact operand.one_le_weight
  | _ => simp [Value.weight]

private theorem arguments_weight {value : Value} {args : List Value}
    (read : (of value).arguments = .ok args) :
    1 + Value.argumentWeights args ≤ value.weight := by
  unfold arguments at read
  split at read
  · next elements found =>
    cases read
    change value.elements? = some args at found
    unfold Value.elements? at found
    cases listed : value.items? with
    | some items =>
        have : items = args := by simpa [listed] using found
        subst this
        have := Value.argumentWeights_le items
        cases value <;> simp [Value.items?] at listed
        all_goals
          subst listed
          simp only [Value.weight]
          omega
    | none =>
        rw [listed, Option.none_or, Option.map_eq_some_iff] at found
        obtain ⟨fields, record, rfl⟩ := found
        rw [Value.argumentWeights_pairs]
        exact one_le_weight_of_record record
  · simp [Reading.fail] at read

end Part

namespace NodeKind

variable {entries : List (Value × Value)}

private theorem weight_le_of_required {name : String} {operand : Expr}
    (within : ∀ part, part.weight < 1 + Value.weightEntries entries →
      ReadsWithin part)
    (read : Record.required (Part.ofEntries entries) name Part.operand =
      .ok operand) :
    ∃ value, Record.find? name entries = some value ∧
      operand.weight ≤ value.weight := by
  obtain ⟨part, found, read⟩ := Record.required_eq_ok.mp read
  rw [Part.find?_ofEntries, Option.map_eq_some_iff] at found
  obtain ⟨value, found, rfl⟩ := found
  have := weight_le_of_find? found
  exact ⟨value, found, within value (by omega) operand read⟩

private theorem weight_le_of_conversion {name : String} {result : Expr}
    {make : Expr → String → Expr}
    (weight : ∀ operand typeName,
      (make operand typeName).weight = 1 + operand.weight)
    (within : ∀ part, part.weight < 1 + Value.weightEntries entries →
      ReadsWithin part)
    (read : readConversion (Part.ofEntries entries) name make = .ok result) :
    result.weight ≤ 1 + Value.weightEntries entries := by
  obtain ⟨fields, inner, rfl⟩ := Reading.map_eq_ok.mp read
  obtain ⟨readOperand, _⟩ :=
    Reading.both_eq_ok.mp (Record.read_eq_ok.mp inner).1
  obtain ⟨value, found, le⟩ := weight_le_of_required within readOperand
  have := weight_le_of_find? found
  rw [weight]
  omega

private theorem weight_le_of_junction {name : String} {result : Expr}
    {make : Expr → List Expr → Expr}
    (weight : ∀ first rest,
      (make first rest).weight = 1 + first.weight + Expr.weightAll rest)
    (within : ∀ part, part.weight < 1 + Value.weightEntries entries →
      ReadsWithin part)
    (read : readJunction (Part.ofEntries entries) name make = .ok result) :
    result.weight ≤ 1 + Value.weightEntries entries := by
  obtain ⟨⟨first, rest⟩, inner, rfl⟩ := Reading.map_eq_ok.mp read
  obtain ⟨part, found, read⟩ :=
    Record.required_eq_ok.mp (Record.read_eq_ok.mp inner).1
  rw [Part.find?_ofEntries, Option.map_eq_some_iff] at found
  obtain ⟨value, found, rfl⟩ := found
  have bound := weight_le_of_find? found
  have := Part.someOperands_weight
    (fun part less => within part (by omega)) read
  simp only [weight]
  omega

private theorem weight_le_of_comparison {comparison : Comparison}
    {left right : Expr}
    (weights : 2 + left.weight + right.weight ≤ Value.weightEntries entries) :
    (Expr.compare comparison left right).weight ≤
      1 + Value.weightEntries entries := by
  simp only [Expr.weight]
  omega

private theorem weight_le_of_namedComparison {result : Expr}
    (within : ∀ part, part.weight < 1 + Value.weightEntries entries →
      ReadsWithin part)
    (read : readNamedComparison (Part.ofEntries entries) = .ok result) :
    result.weight ≤ 1 + Value.weightEntries entries := by
  obtain ⟨fields, inner, rfl⟩ := Reading.map_eq_ok.mp read
  obtain ⟨_, readSides⟩ :=
    Reading.both_eq_ok.mp (Record.read_eq_ok.mp inner).1
  obtain ⟨readLeft, readRight⟩ := Reading.both_eq_ok.mp readSides
  obtain ⟨left, foundLeft, leLeft⟩ := weight_le_of_required within readLeft
  obtain ⟨right, foundRight, leRight⟩ :=
    weight_le_of_required within readRight
  have := weights_le_of_find? (by decide) foundLeft foundRight
  exact weight_le_of_comparison (by omega)

private theorem weight_le_of_spelled {key value : Value}
    {comparison : Comparison} {result : Expr}
    (within : ∀ part, part.weight < 1 + Value.weightEntries [(key, value)] →
      ReadsWithin part)
    (read : readSpelled key comparison (Part.of value) = .ok result) :
    result.weight ≤ 1 + Value.weightEntries [(key, value)] := by
  unfold readSpelled at read
  split at read
  · next left right found =>
    obtain ⟨sides, inner, rfl⟩ := Reading.map_eq_ok.mp read
    obtain ⟨readLeft, readRight⟩ := Reading.both_eq_ok.mp inner
    have same : [left, right] = [sides.1, sides.2].map Except.ok := by
      simp [Reading.under_eq_ok.mp readLeft, Reading.under_eq_ok.mp readRight]
    have := Part.weightOfExprs_le_of_items
      (fun part less => within part (by
        simp only [Value.weightEntries]
        omega))
      found same
    simp only [Expr.weightAll] at this
    apply weight_le_of_comparison
    simp only [Value.weightEntries]
    omega
  · simp [Reading.fail] at read

private theorem weight_le_of_namedNullCheck {result : Expr}
    (within : ∀ part, part.weight < 1 + Value.weightEntries entries →
      ReadsWithin part)
    (read : readNamedNullCheck (Part.ofEntries entries) = .ok result) :
    result.weight ≤ 1 + Value.weightEntries entries := by
  obtain ⟨fields, inner, rfl⟩ := Reading.map_eq_ok.mp read
  obtain ⟨readOperand, _⟩ :=
    Reading.both_eq_ok.mp (Record.read_eq_ok.mp inner).1
  obtain ⟨value, found, le⟩ := weight_le_of_required within readOperand
  have := weight_le_of_find? found
  simp only [Expr.weight]
  omega

private theorem weight_le_of_call {result : Expr}
    (within : ∀ part, part.weight < 1 + Value.weightEntries entries →
      ReadsWithin part)
    (read : readCall (Part.ofEntries entries) = .ok result) :
    result.weight ≤ 1 + Value.weightEntries entries := by
  obtain ⟨fields, inner, rfl⟩ := Reading.map_eq_ok.mp read
  obtain ⟨_, readArgs⟩ := Reading.both_eq_ok.mp (Record.read_eq_ok.mp inner).1
  simp only [Expr.weight]
  rcases Record.optional_eq_ok.mp readArgs with ⟨_, none⟩ | ⟨part, found, read⟩
  · simp [none, Expr.weightAll]
  · rw [Part.find?_ofEntries, Option.map_eq_some_iff] at found
    obtain ⟨value, found, rfl⟩ := found
    have bound := weight_le_of_find? found
    have := Part.operands_weight
      (fun part less => within part (by omega)) read
    omega

private theorem weight_le_of_fragment {result : Expr}
    (read : readFragment (Part.ofEntries entries) = .ok result) :
    result.weight ≤ 1 + Value.weightEntries entries := by
  obtain ⟨⟨template, args⟩, inner, rfl⟩ := Reading.map_eq_ok.mp read
  obtain ⟨_, readArgs⟩ := Reading.both_eq_ok.mp (Record.read_eq_ok.mp inner).1
  have bound : Value.argumentWeights args ≤ Value.weightEntries entries := by
    rcases Record.optional_eq_ok.mp readArgs with
      ⟨_, none⟩ | ⟨part, found, read⟩
    · simp only at none
      simp [none, Value.argumentWeights]
    · rw [Part.find?_ofEntries, Option.map_eq_some_iff] at found
      obtain ⟨value, found, rfl⟩ := found
      have bound := weight_le_of_find? found
      have weight : 1 + Value.argumentWeights args ≤ value.weight :=
        Part.arguments_weight read
      omega
  cases template <;> simp only [Expr.weight] <;> omega

theorem weight_le_of_read {kind : NodeKind} {result : Expr}
    (within : ∀ part, part.weight < 1 + Value.weightEntries entries →
      ReadsWithin part)
    (read : kind.read (Part.ofEntries entries) = .ok result) :
    result.weight ≤ 1 + Value.weightEntries entries := by
  cases kind with
  | column | literal | param =>
      obtain ⟨_, _, rfl⟩ := Reading.map_eq_ok.mp read
      simp only [Expr.weight]
      omega
  | call => exact weight_le_of_call within read
  | cast =>
      exact weight_le_of_conversion (fun _ _ => by simp [Expr.weight])
        within read
  | blob =>
      exact weight_le_of_conversion (fun _ _ => by simp [Expr.weight])
        within read
  | fragment => exact weight_le_of_fragment read
  | compare =>
      rw [NodeKind.read] at read
      rcases readComparison_eq_or (Part.ofEntries entries) with
        named | ⟨key, part, comparison, single, _, spelled⟩
      · rw [named] at read
        exact weight_le_of_namedComparison within read
      · rw [spelled] at read
        obtain ⟨value, rfl, rfl⟩ := Part.ofEntries_eq_singleton single
        exact weight_le_of_spelled within read
  | and =>
      exact weight_le_of_junction (fun _ _ => by simp [Expr.weight])
        within read
  | or =>
      exact weight_le_of_junction (fun _ _ => by simp [Expr.weight])
        within read
  | not =>
      obtain ⟨operand, inner, rfl⟩ := Reading.map_eq_ok.mp read
      obtain ⟨value, found, le⟩ :=
        weight_le_of_required within (Record.read_eq_ok.mp inner).1
      have := weight_le_of_find? found
      simp only [Expr.weight]
      omega
  | membership =>
      exact weight_le_of_junction (fun _ _ => by simp [Expr.weight])
        within read
  | nullCheck =>
      rw [NodeKind.read] at read
      rcases readNullCheck_eq_or (Part.ofEntries entries) with
        named | ⟨key, part, negated, single, _, spelled⟩
      · rw [named] at read
        exact weight_le_of_namedNullCheck within read
      · rw [spelled] at read
        obtain ⟨value, rfl, rfl⟩ := Part.ofEntries_eq_singleton single
        obtain ⟨operand, inner, rfl⟩ := Reading.map_eq_ok.mp read
        have := within value (by simp only [Value.weightEntries]; omega)
          operand (Reading.under_eq_ok.mp inner)
        simp only [Expr.weight, Value.weightEntries]
        omega

end NodeKind

/-- An expression weighs no more than the value that it is read from. -/
theorem Expr.weight_le_of_ofValue {value : Value} {operand : Expr}
    (read : Expr.ofValue value = .ok operand) :
    operand.weight ≤ value.weight := by
  induction bound : value.weight using Nat.strongRecOn
    generalizing value operand with
  | _ weight ih =>
      subst bound
      have within : ∀ part, part.weight < value.weight → ReadsWithin part :=
        fun part less operand read => ih part.weight less read rfl
      cases value with
      | expr operand =>
          simp only [Expr.ofValue, Except.ok.injEq] at read
          simp [read, Value.weight]
      | mapping entries =>
          simp only [Expr.ofValue, Expr.ofParts] at read
          split at read
          · simp [Reading.fail] at read
          · simp only [Value.weight] at within ⊢
            exact NodeKind.weight_le_of_read within
              (Reading.under_eq_ok.mp read)
      | _ => simp [Expr.ofValue, Reading.fail] at read

theorem Expr.weight_le_of_argument {value : Value} {operand : Expr}
    (read : Expr.ofValue value = .ok operand) :
    operand.weight ≤ value.argumentWeight := by
  have bound := Expr.weight_le_of_ofValue read
  cases value <;>
    simp_all [Expr.ofValue, Reading.fail, Value.weight, Value.argumentWeight]

end StructuredCql
