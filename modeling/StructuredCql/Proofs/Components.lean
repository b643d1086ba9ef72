import Mathlib.Logic.Relation
import StructuredCql.Proofs.Parts
import StructuredCql.Proofs.Spelling.Readers

/-!
# What values consist of

A list consists of its items, a mapping of its values and a record of its
fields, each as a pair of a name and a value.  What is reached by such steps is
a proper part, and no value is a proper part of itself, as all descents end.
The main statement is about the arguments that an expression keeps unread: all
of them are proper parts of the value that the expression is read from.
-/

namespace StructuredCql

namespace Value

def components : Value → List Value
  | .mapping entries => entries.map Prod.snd
  | value => value.elements?.getD []

def IsComponent (component whole : Value) : Prop :=
  component ∈ whole.components

def IsProperPart : Value → Value → Prop := Relation.TransGen IsComponent

theorem components_of_elements {whole : Value} {elements : List Value}
    (found : whole.elements? = some elements) :
    whole.components = elements := by
  cases whole with
  | mapping entries => cases found
  | _ => exact congrArg (Option.getD · []) found

theorem components_of_fields {whole : Value} {fields : List (String × Value)}
    (record : whole.fields? = some fields) :
    whole.components =
      fields.map fun field => .tuple [.text field.1, field.2] := by
  apply components_of_elements
  cases whole with
  | list | tuple => cases record
  | _ => simp [elements?, items?, record]

namespace IsProperPart

variable {part middle whole : Value}

theorem of_component (component : part.IsComponent whole) :
    part.IsProperPart whole := .single component

theorem trans (inner : part.IsProperPart middle)
    (outer : middle.IsProperPart whole) : part.IsProperPart whole :=
  Relation.TransGen.trans inner outer

theorem of_field {fields : List (String × Value)}
    (record : whole.fields? = some fields)
    (member : part ∈ fields.map Prod.snd) : part.IsProperPart whole := by
  obtain ⟨field, isField, rfl⟩ := List.mem_map.mp member
  have second : field.2.IsComponent (.tuple [.text field.1, field.2]) := by
    simp [IsComponent, components, elements?, items?]
  have pair : (Value.tuple [.text field.1, field.2]).IsComponent whole := by
    rw [IsComponent, components_of_fields record]
    exact List.mem_map_of_mem isField
  exact .trans (.of_component second) (.of_component pair)

theorem of_item {items : List Value} (member : part ∈ items) :
    part.IsProperPart (.list items) := of_component member

end IsProperPart

/-! ## Descents end -/

theorem accessible_of_components {whole : Value}
    (each : ∀ component ∈ whole.components, Acc IsComponent component) :
    Acc IsComponent whole := .intro whole each

theorem accessible_of_leaf {leaf : Value} (none : leaf.components = []) :
    Acc IsComponent leaf :=
  accessible_of_components (by simp [none])

theorem accessible_of_fields {whole : Value} {fields : List (String × Value)}
    (record : whole.fields? = some fields)
    (each : ∀ field ∈ fields, Acc IsComponent field.2) :
    Acc IsComponent whole := by
  apply accessible_of_components
  rw [components_of_fields record]
  intro pair member
  obtain ⟨field, isField, rfl⟩ := List.mem_map.mp member
  refine accessible_of_components fun component member => ?_
  rcases List.mem_cons.mp member with rfl | member
  · exact accessible_of_leaf rfl
  · cases List.mem_singleton.mp member
    exact each field isField

theorem accessible_list {items : List Value}
    (each : ∀ item ∈ items, Acc IsComponent item) :
    Acc IsComponent (.list items) := accessible_of_components each

theorem accessible_listOfExprs {operands : List Expr}
    (each : ∀ operand ∈ operands, Acc IsComponent (.expr operand)) :
    Acc IsComponent (.list (operands.map .expr)) := by
  refine accessible_list fun item member => ?_
  obtain ⟨operand, isOperand, rfl⟩ := List.mem_map.mp member
  exact each operand isOperand

theorem accessible_mappingOfPairs {entries : List (String × Value)}
    (each : ∀ entry ∈ entries, Acc IsComponent entry.2) :
    Acc IsComponent
      (.mapping (entries.map fun entry => (.text entry.1, entry.2))) := by
  refine accessible_of_components fun component member => ?_
  rw [components, List.map_map] at member
  obtain ⟨entry, isEntry, rfl⟩ := List.mem_map.mp member
  exact each entry isEntry

theorem accessible_leaf :
    (∀ text, Acc IsComponent (.text text)) ∧
    (∀ word, Acc IsComponent (.word word)) ∧
    (∀ flag, Acc IsComponent (.bool flag)) ∧
    (∀ count, Acc IsComponent (.int count)) ∧
    Acc IsComponent .null := by
  refine ⟨?_, ?_, ?_, ?_, ?_⟩ <;> intros <;> exact accessible_of_leaf rfl

mutual

theorem accessible : ∀ value : Value, Acc IsComponent value
  | .list items => accessible_list (forall_accessible items)
  | .tuple items => accessible_of_components (forall_accessible items)
  | .mapping entries => by
      refine accessible_of_components fun component member => ?_
      obtain ⟨entry, isEntry, rfl⟩ := List.mem_map.mp member
      exact forall_accessible_entries entries entry isEntry
  | .expr operand => accessible_expr operand
  | .assignment (.set _ value) => accessible_of_fields rfl <| by
      simp [Assignment.fields, accessible_leaf, accessible_expr value]
  | .assignment (.increment _ amount) => accessible_of_fields rfl <| by
      simp [Assignment.fields, accessible_leaf, accessible_expr amount]
  | .orderItem operand direction => accessible_of_fields rfl <| by
      simp [accessible_leaf, accessible_expr operand]
  | .source ⟨_, none⟩ | .source ⟨_, some _⟩ =>
      accessible_of_fields rfl <| by simp [Source.fields, accessible_leaf]
  | .limit _ => accessible_of_fields rfl <| by simp [accessible_leaf]
  | .null | .bool _ | .int _ | .float _ | .decimal _ | .text _ | .uuid _
  | .bytes _ | .byteArray _ | .date _ | .time _ | .timestamp _ | .now
  | .word _ => accessible_of_leaf rfl

theorem forall_accessible :
    ∀ values : List Value, ∀ value ∈ values, Acc IsComponent value
  | [] => by simp
  | value :: rest =>
      List.forall_mem_cons.mpr ⟨accessible value, forall_accessible rest⟩

theorem forall_accessible_entries :
    ∀ entries : List (Value × Value), ∀ entry ∈ entries,
      Acc IsComponent entry.2
  | [] => by simp
  | (_, value) :: rest =>
      List.forall_mem_cons.mpr ⟨accessible value, forall_accessible_entries rest⟩

theorem forall_accessible_pairs :
    ∀ entries : List (String × Value), ∀ entry ∈ entries,
      Acc IsComponent entry.2
  | [] => by simp
  | (_, value) :: rest =>
      List.forall_mem_cons.mpr ⟨accessible value, forall_accessible_pairs rest⟩

theorem accessible_expr : ∀ operand : Expr, Acc IsComponent (.expr operand)
  | .column _ => accessible_of_fields rfl <| by
      simp [Expr.fields, accessible_leaf]
  | .literal value | .param value => accessible_of_fields rfl <| by
      simp [Expr.fields, accessible value]
  | .call _ args => accessible_of_fields rfl <| by
      simp [Expr.fields, accessible_leaf,
        accessible_listOfExprs (forall_accessible_exprs args)]
  | .cast operand _ | .blob operand _ => accessible_of_fields rfl <| by
      simp [Expr.fields, accessible_leaf, accessible_expr operand]
  | .fragment _ args => accessible_of_fields rfl <| by
      simp [Expr.fields, accessible_leaf,
        accessible_list (forall_accessible args)]
  | .keywords entries args => accessible_of_fields rfl <| by
      simp [Expr.fields, accessible_list (forall_accessible args),
        accessible_mappingOfPairs (forall_accessible_pairs entries)]
  | .compare _ left right => accessible_of_fields rfl <| by
      simp [Expr.fields, accessible_leaf, accessible_expr left,
        accessible_expr right]
  | .and first rest | .or first rest | .membership first rest =>
      accessible_of_fields rfl <| List.forall_mem_singleton.mpr <|
        accessible_listOfExprs <| List.forall_mem_cons.mpr
          ⟨accessible_expr first, forall_accessible_exprs rest⟩
  | .not operand => accessible_of_fields rfl <| by
      simp [Expr.fields, accessible_expr operand]
  | .nullCheck operand _ => accessible_of_fields rfl <| by
      simp [Expr.fields, accessible_leaf, accessible_expr operand]

theorem forall_accessible_exprs :
    ∀ operands : List Expr, ∀ operand ∈ operands,
      Acc IsComponent (.expr operand)
  | [] => by simp
  | operand :: rest =>
      List.forall_mem_cons.mpr
        ⟨accessible_expr operand, forall_accessible_exprs rest⟩

end

/-- No value is a proper part of itself, by however many steps. -/
theorem isProperPart_wellFounded : WellFounded IsProperPart :=
  (WellFounded.intro accessible).transGen

end Value

/-! ## Arguments that are kept unread -/

namespace Expr

def ownArguments : Expr → List Value
  | .fragment _ args | .keywords _ args => args
  | _ => []

/-- The arguments of the fragments in an expression, at any depth. -/
inductive HoldsArgument : Expr → Value → Prop
  | own {operand : Expr} {arg : Value} :
      arg ∈ operand.ownArguments → HoldsArgument operand arg
  | inside {operand child : Expr} {arg : Value} :
      child ∈ operand.children → HoldsArgument child arg →
      HoldsArgument operand arg

/-- The expression is read from a proper part of the value. -/
def ReadWithin (operand : Expr) (whole : Value) : Prop :=
  ∃ part : Value, part.IsProperPart whole ∧ operand.ReadFrom part

structure Within (operand : Expr) (whole : Value) : Prop where
  children : ∀ child ∈ operand.children, child.ReadWithin whole
  arguments : ∀ arg ∈ operand.ownArguments, arg.IsProperPart whole

theorem readWithin_of_field {child : Expr} {whole : Value}
    {fields : List (String × Value)} (record : whole.fields? = some fields)
    (member : .expr child ∈ fields.map Prod.snd) : child.ReadWithin whole :=
  ⟨.expr child, .of_field record member, rfl⟩

theorem readWithin_of_listField {child : Expr} {children : List Expr}
    {whole : Value} {fields : List (String × Value)}
    (record : whole.fields? = some fields)
    (member : .list (children.map .expr) ∈ fields.map Prod.snd)
    (isChild : child ∈ children) : child.ReadWithin whole :=
  ⟨.expr child, .trans (.of_item (List.mem_map_of_mem isChild))
    (.of_field record member), rfl⟩

theorem within_itself (operand : Expr) : operand.Within (.expr operand) := by
  constructor
  · intro child isChild
    cases operand with
    | column | literal | param | fragment | keywords => cases isChild
    | cast | blob | not | nullCheck | compare =>
        exact readWithin_of_field rfl (by
          simpa [fields, Expr.children] using isChild)
    | call | and | or | membership =>
        exact readWithin_of_listField rfl (by simp [fields, Expr.children])
          isChild
  · intro arg isOwn
    have field : .list operand.ownArguments ∈ operand.fields.map Prod.snd := by
      cases operand with
      | fragment | keywords => simp [fields, ownArguments]
      | _ => cases isOwn
    exact .trans (.of_item isOwn) (.of_field rfl field)

end Expr

namespace Part

theorem readWithin_of_operands {value : Value} {operands : List Expr}
    (read : (Part.of value).operands = .ok operands) :
    ∀ operand ∈ operands, operand.ReadWithin value := by
  intro operand member
  unfold Part.operands at read
  split at read
  · next readings found =>
    have isRead : .ok operand ∈ readings := by
      rw [Reading.items_eq_ok.mp read]
      exact List.mem_map_of_mem member
    rcases Option.or_eq_some_iff.mp found with listed | ⟨_, record⟩
    · cases value with
      | list items | tuple items =>
          cases listed
          rw [Expr.ofValues_eq_map] at isRead
          obtain ⟨item, isItem, reads⟩ := List.mem_map.mp isRead
          exact ⟨item, .of_component isItem, reads⟩
      | _ => cases listed
    · obtain ⟨fields, _, rfl⟩ := Option.map_eq_some_iff.mp record
      simp [Reading.fail] at isRead
  · cases read

theorem isProperPart_of_arguments {value : Value} {args : List Value}
    (read : (Part.of value).arguments = .ok args) :
    ∀ arg ∈ args, arg.IsProperPart value := by
  intro arg member
  unfold Part.arguments at read
  split at read
  · next found =>
    cases read
    rw [← Value.components_of_elements found] at member
    exact .of_component member
  · cases read

end Part

section Entries

variable {entries : List (Value × Value)} {name : String} {part : Part}

theorem exists_component_of_find?
    (found : Record.find? name (Part.ofEntries entries) = some part) :
    ∃ value : Value, part = Part.of value ∧
      value.IsComponent (.mapping entries) := by
  obtain ⟨value, held, rfl⟩ := Part.find?_ofEntries_eq_some_iff.mp found
  obtain ⟨key, member, _⟩ := Record.exists_mem_of_find? held
  exact ⟨value, rfl, List.mem_map_of_mem member⟩

theorem Expr.readWithin_of_find? {operand : Expr}
    (found : Record.find? name (Part.ofEntries entries) = some part)
    (read : part.operand = .ok operand) :
    operand.ReadWithin (.mapping entries) := by
  obtain ⟨value, rfl, component⟩ := exists_component_of_find? found
  exact ⟨value, .of_component component, read⟩

theorem Expr.ReadWithin.trans {operand : Expr} {middle whole : Value}
    (inner : operand.ReadWithin middle) (outer : middle.IsProperPart whole) :
    operand.ReadWithin whole := by
  obtain ⟨part, isPart, read⟩ := inner
  exact ⟨part, isPart.trans outer, read⟩

theorem Expr.readWithin_of_find?_operands {operands : List Expr}
    (found : Record.find? name (Part.ofEntries entries) = some part)
    (read : part.operands = .ok operands) :
    ∀ operand ∈ operands, operand.ReadWithin (.mapping entries) := by
  obtain ⟨value, rfl, component⟩ := exists_component_of_find? found
  exact fun operand member =>
    (Part.readWithin_of_operands read operand member).trans
      (.of_component component)

namespace NodeKind

variable {operand : Expr}

theorem within_of_children {whole : Value}
    (children : ∀ child ∈ operand.children, child.ReadWithin whole)
    (none : operand.ownArguments = []) : operand.Within whole :=
  ⟨children, by simp [none]⟩

theorem within_of_call
    (read : readCall (Part.ofEntries entries) = .ok operand) :
    operand.Within (.mapping entries) := by
  obtain ⟨_, function, args, _, held, _, rfl⟩ :=
    Record.readDefaulted_eq_ok.mp read
  refine within_of_children ?_ rfl
  cases found : Record.find? "args" (Part.ofEntries entries) with
  | none =>
      rw [found] at held
      cases held
      simp [Expr.children]
  | some part =>
      rw [found] at held
      exact Expr.readWithin_of_find?_operands found held

theorem within_of_conversion {name : String} {make : Expr → String → Expr}
    (children : ∀ operand typeName,
      (make operand typeName).children = [operand])
    (none : ∀ operand typeName, (make operand typeName).ownArguments = [])
    (read : readConversion (Part.ofEntries entries) name make = .ok operand) :
    operand.Within (.mapping entries) := by
  obtain ⟨part, _, inner, typeName, ⟨found, held⟩, _, _, rfl⟩ :=
    Record.readPair_eq_ok.mp read
  refine within_of_children ?_ (none _ _)
  rw [children, List.forall_mem_singleton]
  exact Expr.readWithin_of_find? found held

theorem within_of_junction {name : String} {make : Expr → List Expr → Expr}
    (children : ∀ first rest, (make first rest).children = first :: rest)
    (none : ∀ first rest, (make first rest).ownArguments = [])
    (read : readJunction (Part.ofEntries entries) name make = .ok operand) :
    operand.Within (.mapping entries) := by
  obtain ⟨part, ⟨first, rest⟩, found, held, _, rfl⟩ :=
    Record.readSingle_eq_ok.mp read
  refine within_of_children ?_ (none _ _)
  rw [children]
  exact Expr.readWithin_of_find?_operands found
    (Part.someOperands_eq_ok_iff.mp held)

theorem within_of_fragment
    (read : readFragment (Part.ofEntries entries) = .ok operand) :
    operand.Within (.mapping entries) := by
  obtain ⟨_, template, args, _, held, _, made⟩ :=
    Record.readDefaulted_eq_ok.mp read
  have inside : ∀ arg ∈ args, arg.IsProperPart (.mapping entries) := by
    cases found : Record.find? "args" (Part.ofEntries entries) with
    | none =>
        rw [found] at held
        cases held
        simp
    | some part =>
        rw [found] at held
        obtain ⟨value, rfl, component⟩ := exists_component_of_find? found
        exact fun arg member =>
          (Part.isProperPart_of_arguments held arg member).trans
            (.of_component component)
  cases template <;> cases made <;> exact ⟨by simp [Expr.children], inside⟩

theorem within_of_comparison
    (read : readComparison (Part.ofEntries entries) = .ok operand) :
    operand.Within (.mapping entries) := by
  rcases readComparison_eq_or (Part.ofEntries entries) with
    named | ⟨key, part, comparison, single, _, spelled⟩
  · rw [named] at read
    obtain ⟨_, left, right, _, ⟨_, foundLeft, isLeft⟩,
      ⟨_, foundRight, isRight⟩, _, rfl⟩ := readNamedComparison_eq_ok.mp read
    refine within_of_children ?_ rfl
    simp only [Expr.children, List.forall_mem_cons]
    exact ⟨Expr.readWithin_of_find? foundLeft isLeft,
      Expr.readWithin_of_find? foundRight isRight, by simp⟩
  · rw [spelled] at read
    obtain ⟨value, rfl, rfl⟩ := Part.ofEntries_eq_singleton single
    obtain ⟨left, right, rfl, held⟩ := exists_of_readSpelled read
    refine within_of_children (fun child isChild => ?_) rfl
    exact (Part.readWithin_of_operands held child isChild).trans
      (.of_component List.mem_cons_self)

theorem within_of_nullCheck
    (read : readNullCheck (Part.ofEntries entries) = .ok operand) :
    operand.Within (.mapping entries) := by
  rcases readNullCheck_eq_or (Part.ofEntries entries) with
    named | ⟨key, part, negated, single, _, spelled⟩
  · rw [named] at read
    obtain ⟨_, inner, _, ⟨found, held⟩, _, _, rfl⟩ :=
      Record.readDefaulted_eq_ok.mp read
    exact within_of_children
      (List.forall_mem_singleton.mpr (Expr.readWithin_of_find? found held)) rfl
  · rw [spelled] at read
    obtain ⟨value, rfl, rfl⟩ := Part.ofEntries_eq_singleton single
    obtain ⟨inner, held, rfl⟩ := Reading.map_eq_ok.mp read
    refine within_of_children (List.forall_mem_singleton.mpr ?_) rfl
    exact ⟨value, .of_component List.mem_cons_self,
      Reading.under_eq_ok.mp held⟩

theorem within_of_read {kind : NodeKind}
    (read : kind.read (Part.ofEntries entries) = .ok operand) :
    operand.Within (.mapping entries) := by
  cases kind with
  | column | literal | param =>
      obtain ⟨_, _, rfl⟩ := Reading.map_eq_ok.mp read
      exact within_of_children (by simp [Expr.children]) rfl
  | call => exact within_of_call read
  | cast => exact within_of_conversion (fun _ _ => rfl) (fun _ _ => rfl) read
  | blob => exact within_of_conversion (fun _ _ => rfl) (fun _ _ => rfl) read
  | fragment => exact within_of_fragment read
  | compare => exact within_of_comparison read
  | and => exact within_of_junction (fun _ _ => rfl) (fun _ _ => rfl) read
  | or => exact within_of_junction (fun _ _ => rfl) (fun _ _ => rfl) read
  | not =>
      obtain ⟨_, inner, found, held, _, rfl⟩ :=
        Record.readSingle_eq_ok.mp read
      exact within_of_children
        (List.forall_mem_singleton.mpr (Expr.readWithin_of_find? found held))
        rfl
  | membership =>
      exact within_of_junction (fun _ _ => rfl) (fun _ _ => rfl) read
  | nullCheck => exact within_of_nullCheck read

end NodeKind

end Entries

theorem Expr.within_of_ofValue {value : Value} {operand : Expr}
    (read : Expr.ofValue value = .ok operand) : operand.Within value := by
  cases value with
  | expr =>
      cases read
      exact within_itself operand
  | mapping entries =>
      obtain ⟨kind, _, read⟩ := Expr.ofValue_mapping_eq_ok.mp read
      exact NodeKind.within_of_read read
  | _ => cases read

/-- Whatever is kept unread in an expression, at any depth, is a proper part of
what the expression is read from. -/
theorem Expr.HoldsArgument.isProperPart {operand : Expr} {arg : Value}
    (holds : operand.HoldsArgument arg) {value : Value}
    (read : Expr.ofValue value = .ok operand) : arg.IsProperPart value := by
  induction holds generalizing value with
  | own isOwn => exact (within_of_ofValue read).arguments _ isOwn
  | inside isChild _ ih =>
      obtain ⟨part, isPart, reads⟩ :=
        (within_of_ofValue read).children _ isChild
      exact (ih reads).trans isPart

end StructuredCql
