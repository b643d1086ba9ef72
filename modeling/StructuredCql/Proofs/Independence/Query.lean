import StructuredCql.Proofs.Independence.Expr

/-!
# The text of queries and bound values

Queries that differ only in what parameters hold set the same clauses, and their
layouts are alike for each operation.
-/

namespace StructuredCql

open Piece

variable {related : Value → Value → Prop}

/-! ## Queries that are alike -/

inductive Assignment.Alike (related : Value → Value → Prop) :
    Assignment → Assignment → Prop
  | set {column : String} {operand other : Expr}
      (operands : Expr.Alike related false operand other) :
      Alike related (.set column operand) (.set column other)
  | increment {column : String} {operand other : Expr}
      (operands : Expr.Alike related false operand other) :
      Alike related (.increment column operand) (.increment column other)

inductive OrderItem.Alike (related : Value → Value → Prop) :
    OrderItem → OrderItem → Prop
  | item {operand other : Expr} {direction : Direction}
      (operands : Expr.Alike related false operand other) :
      Alike related ⟨operand, direction⟩ ⟨other, direction⟩

/-- Queries that differ only in what parameters hold. -/
structure Query.Alike (related : Value → Value → Prop) (query other : Query) :
    Prop where
  source : query.source = other.source
  selection : Expr.ListAlike related query.selection other.selection
  filter : Option.Rel (Expr.Alike related false) query.filter other.filter
  grouping : Expr.ListAlike related query.grouping other.grouping
  ordering : List.Forall₂ (OrderItem.Alike related) query.ordering
    other.ordering
  limit : query.limit = other.limit
  hint : query.hint = other.hint
  assignments : List.Forall₂ (Assignment.Alike related) query.assignments
    other.assignments

/-! ## Layouts of clauses -/

theorem Expr.Alike.layouts {operand other : Expr}
    (alike : Expr.Alike related false operand other) :
    SameLayout related operand.layout other.layout :=
  alike.twins.layouts

theorem Expr.ListAlike.of_forall₂ {operands others : List Expr}
    (each : List.Forall₂ (Expr.Alike related false) operands others) :
    Expr.ListAlike related operands others := by
  induction each with
  | nil => exact .nil
  | cons first _ ih => exact .cons first ih

theorem Expr.ListAlike.layouts {operands others : List Expr}
    (alike : Expr.ListAlike related operands others) :
    List.Forall₂ (SameLayout related) (operands.map Expr.layout)
      (others.map Expr.layout) :=
  Expr.Twins.all_layouts alike.twins

theorem Assignment.Alike.layouts {assignment other : Assignment}
    (alike : Assignment.Alike related assignment other) :
    SameLayout related assignment.layout other.layout := by
  cases alike with
  | set operands =>
      exact (SameLayout.ofText _).append (.cons (.plain _) operands.layouts)
  | increment operands =>
      exact (SameLayout.ofText _).append (.cons (.plain _)
        ((SameLayout.ofText _).append (.cons (.plain _) operands.layouts)))

theorem OrderItem.Alike.layouts {item other : OrderItem}
    (alike : OrderItem.Alike related item other) :
    SameLayout related item.layout other.layout := by
  obtain @⟨_, _, direction, operands⟩ := alike
  cases direction with
  | ascending => exact operands.layouts
  | descending => exact operands.layouts.append (.cons (.plain _) .nil)

namespace SameLayout

theorem select {items others : List Expr}
    (each : Expr.ListAlike related items others) :
    SameLayout related (selectLayout items) (selectLayout others) := by
  cases each with
  | nil => exact .cons (.plain _) .nil
  | cons first each =>
      exact .cons (.plain _)
        (separated ", " (Expr.ListAlike.cons first each).layouts)

theorem filter {filter other : Option Expr}
    (filters : Option.Rel (Expr.Alike related false) filter other) :
    List.Forall₂ (SameLayout related) (filter.map whereLayout).toList
      (other.map whereLayout).toList := by
  cases filters with
  | none => exact .nil
  | some filters => exact .cons (.cons (.plain _) filters.layouts) .nil

theorem groupBy {items others : List Expr}
    (each : Expr.ListAlike related items others) :
    SameLayout related (groupByLayout items) (groupByLayout others) :=
  .cons (.plain _) (separated ", " each.layouts)

theorem orderBy {items others : List OrderItem}
    (each : List.Forall₂ (OrderItem.Alike related) items others) :
    SameLayout related (orderByLayout items) (orderByLayout others) :=
  .cons (.plain _)
    (separated ", " (List.rel_map (fun _ _ alike => alike.layouts) each))

theorem assignments {assignments others : List Assignment}
    (each : List.Forall₂ (Assignment.Alike related) assignments others) :
    SameLayout related
      (Piece.separated ", " (assignments.map Assignment.layout))
      (Piece.separated ", " (others.map Assignment.layout)) :=
  separated ", " (List.rel_map (fun _ _ alike => alike.layouts) each)

theorem limit (count : Nat) :
    SameLayout related (limitLayout count) (limitLayout count) := by
  apply refl_of_carried
  unfold limitLayout
  split <;> rfl

theorem ofCheck {α : Type} (outcome : Except CompileError α) :
    SameLayout related (Piece.ofCheck outcome) (Piece.ofCheck outcome) :=
  refl_of_carried (by cases outcome <;> rfl)

theorem ofGuard (guard : Except CompileError (Option Guard)) :
    SameLayout related (Piece.ofGuard guard) (Piece.ofGuard guard) :=
  refl_of_carried (by rcases guard with _ | _ | _ <;> rfl)

theorem unbound {α : Type} {layout : α → List Piece}
    (same : ∀ part, SameLayout related (layout part) (layout part))
    (part : Option α) :
    List.Forall₂ (SameLayout related) (part.map layout).toList
      (part.map layout).toList := by
  cases part with
  | none => exact .nil
  | some part => exact .cons (same part) .nil

theorem listClause {α : Type} {layout : List α → List Piece}
    {items others : List α} (empty : items.isEmpty = others.isEmpty)
    (same : SameLayout related (layout items) (layout others)) :
    List.Forall₂ (SameLayout related) (Query.listLayout layout items)
      (Query.listLayout layout others) := by
  cases items with
  | nil =>
      cases others with
      | nil => exact .nil
      | cons => cases empty
  | cons item items =>
      cases others with
      | nil => cases empty
      | cons => exact .cons same .nil

end SameLayout

/-! ## Layouts of queries -/

theorem Expr.ListAlike.isEmpty_eq {operands others : List Expr}
    (alike : Expr.ListAlike related operands others) :
    operands.isEmpty = others.isEmpty := by
  cases alike <;> rfl

theorem isEmpty_eq_of_forall₂ {α : Type} {fits : α → α → Prop}
    {items others : List α} (each : List.Forall₂ fits items others) :
    items.isEmpty = others.isEmpty := by
  cases each <;> rfl

private theorem isSome_eq_of_rel {α : Type} {fits : α → α → Prop}
    {part other : Option α} (parts : Option.Rel fits part other) :
    part.isSome = other.isSome := by
  cases parts <;> rfl

namespace Query.Alike

variable {query other : Query} (alike : query.Alike related other)

include alike

theorem writtenHint_eq : query.writtenHint = other.writtenHint := by
  rw [writtenHint, writtenHint, alike.hint]

theorem sets_eq : query.sets = other.sets := by
  funext clause
  cases clause with
  | select => simp only [sets, alike.selection.isEmpty_eq]
  | «where» => exact isSome_eq_of_rel alike.filter
  | groupBy => simp only [sets, alike.grouping.isEmpty_eq]
  | orderBy => simp only [sets, isEmpty_eq_of_forall₂ alike.ordering]
  | limit => simp only [sets, alike.limit]
  | lock => simp only [sets, alike.writtenHint_eq]
  | update => simp only [sets, isEmpty_eq_of_forall₂ alike.assignments]
  | insert | options => rfl

theorem checkClauses_eq : query.checkClauses = other.checkClauses := by
  funext operation
  rw [checkClauses, checkClauses, alike.writtenHint_eq, alike.sets_eq]

theorem readingLayouts :
    SameLayout related query.readingLayout other.readingLayout := by
  have table : SameLayout related
      [.plain "FROM ", ofText query.source.tableName]
      [.plain "FROM ", ofText other.source.tableName] := by
    rw [alike.source]
    exact .cons (.plain _) (SameLayout.ofText _)
  have limits : List.Forall₂ (SameLayout related)
      (query.limit.map limitLayout).toList
      (other.limit.map limitLayout).toList := by
    rw [alike.limit]
    exact SameLayout.unbound .limit _
  have hints : List.Forall₂ (SameLayout related)
      (query.writtenHint.map hintLayout).toList
      (other.writtenHint.map hintLayout).toList := by
    rw [alike.writtenHint_eq]
    exact SameLayout.unbound (fun _ => .ofText _) _
  refine .separated " " ?_
  refine List.rel_append (List.rel_append (List.rel_append (List.rel_append
    (List.rel_append ?_ ?_) ?_) ?_) limits) hints
  · exact .cons (.select alike.selection) (.cons table .nil)
  · exact SameLayout.filter alike.filter
  · exact SameLayout.listClause alike.grouping.isEmpty_eq
      (.groupBy alike.grouping)
  · exact SameLayout.listClause (isEmpty_eq_of_forall₂ alike.ordering)
      (.orderBy alike.ordering)

theorem updateAllLayouts (requested : Option Guard) :
    SameLayout related (query.updateAllLayout requested)
      (other.updateAllLayout requested) := by
  unfold updateAllLayout
  rw [alike.checkClauses_eq, isEmpty_eq_of_forall₂ alike.assignments,
    alike.source]
  refine ((SameLayout.ofCheck _).append (.refl_of_carried ?_)).append ?_
  · split <;> rfl
  · have filters := alike.filter
    generalize query.filter = filter, other.filter = otherFilter at filters ⊢
    cases filters with
    | none => exact .cons (.flaw _ _) .nil
    | some filters =>
        exact .cons (.plain _) ((SameLayout.ofText _).append (.cons (.plain _)
          (((SameLayout.assignments alike.assignments).append
            (.cons (.plain _) filters.layouts)).append (.ofGuard _))))

theorem deleteAllLayouts (requested : Option Guard) :
    SameLayout related (query.deleteAllLayout requested)
      (other.deleteAllLayout requested) := by
  unfold deleteAllLayout
  rw [alike.checkClauses_eq, alike.source]
  refine (SameLayout.ofCheck _).append ?_
  have filters := alike.filter
  generalize query.filter = filter, other.filter = otherFilter at filters ⊢
  cases filters with
  | none =>
      refine .cons (.plain _)
        ((SameLayout.ofText _).append (.refl_of_carried ?_))
      rcases guardFor requested .deleteAll with _ | _ | _ <;> rfl
  | some filters =>
      exact .cons (.plain _) ((SameLayout.ofText _).append
        (((SameLayout.ofCheck _).append (.cons (.plain _)
          filters.layouts)).append (.ofGuard _)))

theorem layouts (requested : Option Guard) (operation : Operation) :
    SameLayout related (query.layoutFor requested operation)
      (other.layoutFor requested operation) := by
  cases operation with
  | all => exact alike.readingLayouts
  | updateAll => exact alike.updateAllLayouts requested
  | deleteAll => exact alike.deleteAllLayouts requested
  | insert | update | delete => exact .cons (.flaw _ _) .nil

end Query.Alike

end StructuredCql
