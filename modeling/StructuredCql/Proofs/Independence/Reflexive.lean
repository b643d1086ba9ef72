import StructuredCql.Proofs.Independence.Job

/-!
# Jobs are alike to themselves

The relations between two runs leave no job out: where bound values go together
with themselves, every expression, every argument of a fragment and every job is
alike to itself.
-/

namespace StructuredCql

variable {related : Value → Value → Prop}

theorem Held.refl (each : ∀ value, related value value) (alone : Bool)
    (value : Value) :
    Held related alone value value := by
  cases alone with
  | false => exact .bound (each value)
  | true =>
      cases listed : value.items? with
      | none => exact .single listed listed (each value)
      | some items =>
          exact .items listed listed
            (List.forall₂_same.mpr fun item _ => each item)

theorem Value.ListAlike.of_forall_mem {values : List Value}
    (alike : ∀ value ∈ values, Value.Alike related false value value) :
    Value.ListAlike related values values := by
  induction values with
  | nil => exact .nil
  | cons value rest ih =>
      exact .cons (alike value List.mem_cons_self)
        (ih fun other member => alike other (List.mem_cons_of_mem value member))

theorem Expr.ListAlike.of_forall_mem {operands : List Expr}
    (alike : ∀ operand ∈ operands, Expr.Alike related false operand operand) :
    Expr.ListAlike related operands operands :=
  .of_forall₂ (List.forall₂_same.mpr alike)

private theorem membership_refl {alone : Bool} {operand : Expr}
    {values : List Expr} (operands : Expr.Alike related false operand operand)
    (alike : ∀ value ∈ values, ∀ alone, Expr.Alike related alone value value) :
    Expr.Alike related alone (.membership operand values)
      (.membership operand values) := by
  by_cases single : values.length = 1
  · obtain ⟨value, rfl⟩ := List.length_eq_one_iff.mp single
    exact .single operands (alike value List.mem_cons_self true)
  · exact .membership operands
      (.of_forall_mem fun value member => alike value member false) single

private theorem entry_refl (each : ∀ value, related value value)
    {alone : Bool} {key value : Value} {rest : List (Value × Value)}
    (alike : Value.Alike related false value value)
    (items : ∀ items, value.items? = some items →
      ∀ item ∈ items, ∀ alone, Value.Alike related alone item item)
    (others : Value.EntriesAlike related alone rest rest) :
    Value.EntriesAlike related alone ((key, value) :: rest)
      ((key, value) :: rest) := by
  by_cases param : key.letters? = some "param"
  · exact .param param (.refl each alone value) others
  by_cases data : key.letters? = some "value"
  · exact .data data others
  by_cases membership : key.letters? = some "IN"
  · by_cases pair : ∃ operand single, value.items? = some [operand, single]
    · obtain ⟨operand, single, listed⟩ := pair
      exact .single membership listed listed
        (items _ listed operand (by simp) false)
        (items _ listed single (by simp) true) others
    · exact .membership membership
        (fun operand single listed => pair ⟨operand, single, listed⟩) alike
        others
  · refine .other ?_ alike others
    simp only [specialKeys, List.forall_mem_cons]
    exact ⟨param, data, membership, by simp⟩

mutual

theorem Expr.Alike.refl (each : ∀ value, related value value) (alone : Bool) :
    ∀ operand : Expr, Expr.Alike related alone operand operand
  | .column name => .column name
  | .literal value => .literal value
  | .param value => .param (.refl each alone value)
  | .call _ args =>
      .call (.of_forall_mem fun arg member =>
        Expr.Alike.refl_of_mem each args arg member false)
  | .cast operand _ => .cast (Expr.Alike.refl each false operand)
  | .blob operand _ => .blob (Expr.Alike.refl each false operand)
  | .fragment _ args =>
      .fragment (.of_forall_mem fun arg member =>
        Value.Alike.refl_of_mem each args arg member false)
  | .keywords _ _ => .keywords
  | .compare _ left right =>
      .compare (Expr.Alike.refl each false left)
        (Expr.Alike.refl each false right)
  | .and first rest =>
      .and (Expr.Alike.refl each false first)
        (.of_forall_mem fun operand member =>
          Expr.Alike.refl_of_mem each rest operand member false)
  | .or first rest =>
      .or (Expr.Alike.refl each false first)
        (.of_forall_mem fun operand member =>
          Expr.Alike.refl_of_mem each rest operand member false)
  | .not operand => .not (Expr.Alike.refl each false operand)
  | .membership operand values =>
      membership_refl (Expr.Alike.refl each false operand)
        (Expr.Alike.refl_of_mem each values)
  | .nullCheck operand _ => .nullCheck (Expr.Alike.refl each false operand)

theorem Expr.Alike.refl_of_mem (each : ∀ value, related value value) :
    ∀ operands : List Expr, ∀ operand ∈ operands, ∀ alone,
      Expr.Alike related alone operand operand
  | [], _, member, _ => nomatch member
  | first :: rest, operand, member, alone => by
      rcases List.mem_cons.mp member with same | member
      · rw [same]
        exact Expr.Alike.refl each alone first
      · exact Expr.Alike.refl_of_mem each rest operand member alone

theorem Value.Alike.refl (each : ∀ value, related value value)
    (alone : Bool) : ∀ value : Value, Value.Alike related alone value value
  | .list items | .tuple items =>
      .items rfl rfl (.of_forall_mem fun item member =>
        Value.Alike.refl_of_mem each items item member false)
  | .mapping entries => .mapping (Value.EntriesAlike.refl each alone entries)
  | .expr operand => .expr (Expr.Alike.refl each alone operand)
  | .assignment (.set _ operand) => .set (Expr.Alike.refl each false operand)
  | .assignment (.increment _ operand) =>
      .increment (Expr.Alike.refl each false operand)
  | .orderItem operand _ => .orderItem (Expr.Alike.refl each false operand)
  | .null | .bool _ | .int _ | .float _ | .decimal _ | .text _ | .uuid _
  | .bytes _ | .byteArray _ | .date _ | .time _ | .timestamp _ | .now
  | .word _ | .source _ | .limit _ => .plain rfl

theorem Value.Alike.refl_of_mem (each : ∀ value, related value value) :
    ∀ values : List Value, ∀ value ∈ values, ∀ alone,
      Value.Alike related alone value value
  | [], _, member, _ => nomatch member
  | first :: rest, value, member, alone => by
      rcases List.mem_cons.mp member with same | member
      · rw [same]
        exact Value.Alike.refl each alone first
      · exact Value.Alike.refl_of_mem each rest value member alone

theorem Value.Alike.refl_of_items (each : ∀ value, related value value) :
    ∀ (value : Value) (items : List Value), value.items? = some items →
      ∀ item ∈ items, ∀ alone, Value.Alike related alone item item
  | .list items, _, rfl => Value.Alike.refl_of_mem each items
  | .tuple items, _, rfl => Value.Alike.refl_of_mem each items

theorem Value.EntriesAlike.refl (each : ∀ value, related value value)
    (alone : Bool) : ∀ entries : List (Value × Value),
      Value.EntriesAlike related alone entries entries
  | [] => .nil
  | (_, value) :: rest =>
      entry_refl each (Value.Alike.refl each false value)
        (Value.Alike.refl_of_items each value)
        (Value.EntriesAlike.refl each alone rest)

end

/-! ## Queries and rows -/

theorem Query.Alike.refl (each : ∀ value, related value value)
    (query : Query) : query.Alike related query where
  source := rfl
  selection := .of_forall_mem fun operand _ => .refl each false operand
  filter := by
    cases query.filter with
    | none => exact .none
    | some filter => exact .some (.refl each false filter)
  grouping := .of_forall_mem fun operand _ => .refl each false operand
  ordering := List.forall₂_same.mpr fun item _ =>
    .item (.refl each false item.operand)
  limit := rfl
  hint := rfl
  assignments := List.forall₂_same.mpr fun assignment _ => by
    cases assignment with
    | set column value => exact .set (.refl each false value)
    | increment column amount => exact .increment (.refl each false amount)

theorem Row.Alike.refl (each : ∀ value, related value value) (row : Row) :
    row.Alike related row :=
  List.forall₂_same.mpr fun entry _ => ⟨rfl, each entry.2⟩

theorem Inserted.refl (each : ∀ value, related value value) (value : Value) :
    Inserted related value value := by
  by_cases generated : value = .now
  · rw [generated]
    exact .generated
  · exact .bound generated generated (each value)

theorem Job.Alike.refl (each : ∀ value, related value value) (job : Job) :
    job.Alike related job := by
  cases job with
  | query asked => exact .query (.refl each asked)
  | insert _ _ fields => exact .insert (.refl (Inserted.refl each) fields)
  | update _ _ fields filters =>
      exact .update (.refl each fields) (.refl each filters)
  | delete _ _ filters => exact .delete (.refl each filters)

end StructuredCql
