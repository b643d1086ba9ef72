import Mathlib
import StructuredCql.Proofs.Layout.Query
import StructuredCql.Proofs.Names

/-!
# Rewriting queries

An expression can be simplified in three ways: a column loses its qualifier, a
conjunction inside another one is dissolved into it, and a list that is the
only value of a membership gives way to its items.  The main statement is that
a query may be rewritten so wherever a clause of it holds an expression, any
number of times, without a change in the outcome of any operation.

What stands around an expression depends on its layout only, apart from one
place: the only value of a membership is looked at itself.  So what is
rewritten must not hold a value before or after, which is why both are said
together in the induction.
-/

namespace StructuredCql

open StructuredCql.Text
open Piece

/-! ## Steps -/

/-- A name with a qualifier in front of it, and the name alone. -/
inductive Unqualifies : String → String → Prop
  | intro {qualifier column : String} :
      isIdentifier qualifier.toList → '.' ∉ column.toList →
      Unqualifies (qualifier ++ "." ++ column) column

/-- The items of a list, unless a list would stand alone in place of it. -/
def Value.SpreadsTo (value : Value) (items : List Value) : Prop :=
  value.items? = some items ∧
    (2 ≤ items.length ∨ ∃ item, items = [item] ∧ item.items? = none)

namespace Expr

inductive Simplifies : Expr → Expr → Prop
  | unqualified {name column : String} :
      Unqualifies name column → Simplifies (.column name) (.column column)
  | firstConjunction (first : Expr) (inner rest : List Expr) :
      Simplifies (.and (.and first inner) rest) (.and first (inner ++ rest))
  | laterConjunction (first second : Expr) (before inner after : List Expr) :
      Simplifies (.and first (before ++ .and second inner :: after))
        (.and first (before ++ second :: inner ++ after))
  | boundList {value : Value} {items : List Value} (operand : Expr) :
      value.SpreadsTo items →
      Simplifies (.membership operand [.param value])
        (.membership operand (items.map .param))
  | inlinedList {value : Value} {items : List Value} (operand : Expr) :
      value.SpreadsTo items →
      Simplifies (.membership operand [.literal value])
        (.membership operand (items.map .literal))

/-- One expression is simplified, at whatever depth. -/
inductive Rewrites : Expr → Expr → Prop
  | here {operand simpler : Expr} :
      Simplifies operand simpler → Rewrites operand simpler
  | argument {operand simpler : Expr} (function : CqlFunction)
      (before after : List Expr) :
      Rewrites operand simpler →
      Rewrites (.call function (before ++ operand :: after))
        (.call function (before ++ simpler :: after))
  | cast {operand simpler : Expr} (typeName : String) :
      Rewrites operand simpler →
      Rewrites (.cast operand typeName) (.cast simpler typeName)
  | blob {operand simpler : Expr} (typeName : String) :
      Rewrites operand simpler →
      Rewrites (.blob operand typeName) (.blob simpler typeName)
  | slot {operand simpler : Expr} (template : String)
      (before after : List Value) :
      Rewrites operand simpler →
      Rewrites (.fragment template (before ++ .expr operand :: after))
        (.fragment template (before ++ .expr simpler :: after))
  | keywordSlot {operand simpler : Expr} (entries : List (String × Value))
      (before after : List Value) :
      Rewrites operand simpler →
      Rewrites (.keywords entries (before ++ .expr operand :: after))
        (.keywords entries (before ++ .expr simpler :: after))
  | left {operand simpler : Expr} (comparison : Comparison) (right : Expr) :
      Rewrites operand simpler →
      Rewrites (.compare comparison operand right)
        (.compare comparison simpler right)
  | right {operand simpler : Expr} (comparison : Comparison) (left : Expr) :
      Rewrites operand simpler →
      Rewrites (.compare comparison left operand)
        (.compare comparison left simpler)
  | firstConjunct {operand simpler : Expr} (rest : List Expr) :
      Rewrites operand simpler →
      Rewrites (.and operand rest) (.and simpler rest)
  | laterConjunct {operand simpler : Expr} (first : Expr)
      (before after : List Expr) :
      Rewrites operand simpler →
      Rewrites (.and first (before ++ operand :: after))
        (.and first (before ++ simpler :: after))
  | firstDisjunct {operand simpler : Expr} (rest : List Expr) :
      Rewrites operand simpler →
      Rewrites (.or operand rest) (.or simpler rest)
  | laterDisjunct {operand simpler : Expr} (first : Expr)
      (before after : List Expr) :
      Rewrites operand simpler →
      Rewrites (.or first (before ++ operand :: after))
        (.or first (before ++ simpler :: after))
  | negated {operand simpler : Expr} :
      Rewrites operand simpler → Rewrites (.not operand) (.not simpler)
  | member {operand simpler : Expr} (values : List Expr) :
      Rewrites operand simpler →
      Rewrites (.membership operand values) (.membership simpler values)
  | value {operand simpler : Expr} (member : Expr)
      (before after : List Expr) :
      Rewrites operand simpler →
      Rewrites (.membership member (before ++ operand :: after))
        (.membership member (before ++ simpler :: after))
  | nullCheck {operand simpler : Expr} (negated : Bool) :
      Rewrites operand simpler →
      Rewrites (.nullCheck operand negated) (.nullCheck simpler negated)

end Expr

inductive Assignment.Rewrites : Assignment → Assignment → Prop
  | value {operand simpler : Expr} (column : String) :
      operand.Rewrites simpler →
      Rewrites (.set column operand) (.set column simpler)
  | amount {operand simpler : Expr} (column : String) :
      operand.Rewrites simpler →
      Rewrites (.increment column operand) (.increment column simpler)
  | setColumn {name column : String} (value : Expr) :
      Unqualifies name column →
      Rewrites (.set name value) (.set column value)
  | incrementColumn {name column : String} (amount : Expr) :
      Unqualifies name column →
      Rewrites (.increment name amount) (.increment column amount)

/-- One expression of one clause is rewritten, or one assigned column. -/
inductive Query.Rewrites : Query → Query → Prop
  | selection {operand simpler : Expr} (query : Query)
      (before after : List Expr) :
      operand.Rewrites simpler →
      Rewrites { query with selection := before ++ operand :: after }
        { query with selection := before ++ simpler :: after }
  | filter {operand simpler : Expr} (query : Query) :
      operand.Rewrites simpler →
      Rewrites { query with filter := some operand }
        { query with filter := some simpler }
  | grouping {operand simpler : Expr} (query : Query)
      (before after : List Expr) :
      operand.Rewrites simpler →
      Rewrites { query with grouping := before ++ operand :: after }
        { query with grouping := before ++ simpler :: after }
  | ordering {operand simpler : Expr} (query : Query)
      (direction : Direction) (before after : List OrderItem) :
      operand.Rewrites simpler →
      Rewrites
        { query with ordering := before ++ ⟨operand, direction⟩ :: after }
        { query with ordering := before ++ ⟨simpler, direction⟩ :: after }
  | assignment {assignment simpler : Assignment} (query : Query)
      (before after : List Assignment) :
      assignment.Rewrites simpler →
      Rewrites { query with assignments := before ++ assignment :: after }
        { query with assignments := before ++ simpler :: after }

/-! ## Layouts of what is rewritten -/

theorem Unqualifies.columnName_eq {name column : String}
    (unqualifies : Unqualifies name column) :
    columnName name = columnName column := by
  obtain ⟨accepted, plain⟩ := unqualifies
  have qualifier := isIdentifier_iff.mp accepted
  rw [columnName_append _ qualifier.point_not_mem,
    columnName_of_not_mem plain, checkedName, if_pos accepted]
  rfl

theorem Value.SpreadsTo.ofValues_eq_each {value : Value} {items : List Value}
    (spreads : value.SpreadsTo items) {leaf : Value → Expr}
    (single : ∀ item : Value, item.items? = none →
      Membership.ofValues [leaf item] = .each) :
    Membership.ofValues (items.map leaf) = .each := by
  obtain ⟨-, several | ⟨item, rfl, noItems⟩⟩ := spreads
  · cases items with
    | nil => simp at several
    | cons first rest =>
        cases rest with
        | nil => simp at several
        | cons second rest => exact Membership.ofValues_of_several _ _ _
  · exact single item noItems

theorem Value.SpreadsTo.items_ne_nil {value : Value} {items : List Value}
    (spreads : value.SpreadsTo items) : items ≠ [] := by
  rintro rfl
  obtain ⟨-, several | ⟨item, same, -⟩⟩ := spreads
  · simp at several
  · cases same

namespace Expr

theorem Simplifies.layout_eq {operand simpler : Expr}
    (simplifies : Simplifies operand simpler) :
    operand.layout = simpler.layout := by
  cases simplifies with
  | unqualified unqualifies =>
      rw [layout, layout, unqualifies.columnName_eq]
  | firstConjunction first inner rest =>
      simp only [layout, separated_cons, List.map_append, List.flatMap_append,
        List.append_assoc]
  | laterConjunction first second before inner after =>
      simp only [layout, separated_cons, List.map_append, List.map_cons,
        List.flatMap_append, List.flatMap_cons, List.append_assoc,
        List.cons_append]
  | @boundList value items operand spreads =>
      have bound : Membership.ofValues [.param value] = .bound items := by
        obtain ⟨first, rest, rfl⟩ :=
          List.exists_cons_of_ne_nil spreads.items_ne_nil
        simp [Membership.ofValues, spreads.1]
      have each : Membership.ofValues (items.map .param) = .each :=
        spreads.ofValues_eq_each fun item noItems => by
          simp [Membership.ofValues, noItems]
      simp only [layout, bound, each, List.map_map, Function.comp_def]
  | @inlinedList value items operand spreads =>
      have inlined := Membership.ofValues_literal spreads.1
        spreads.items_ne_nil
      have each : Membership.ofValues (items.map .literal) = .each :=
        spreads.ofValues_eq_each fun item noItems => by
          simp [Membership.ofValues, noItems]
      simp only [layout, inlined, each, List.map_map, Function.comp_def]

private theorem ofValues_append_cons {operand : Expr}
    (alone : Membership.ofValues [operand] = .each)
    (before after : List Expr) :
    Membership.ofValues (before ++ operand :: after) = .each := by
  cases before with
  | nil =>
      cases after with
      | nil => exact alone
      | cons next after => exact Membership.ofValues_of_several _ _ _
  | cons first before =>
      cases before <;> exact Membership.ofValues_of_several _ _ _

theorem Rewrites.ofValues_eq_each {operand simpler : Expr}
    (rewrites : Rewrites operand simpler) :
    Membership.ofValues [operand] = .each ∧
      Membership.ofValues [simpler] = .each := by
  cases rewrites with
  | here simplifies => cases simplifies <;> exact ⟨rfl, rfl⟩
  | _ => exact ⟨rfl, rfl⟩

theorem Rewrites.layout_eq {operand simpler : Expr}
    (rewrites : Rewrites operand simpler) :
    operand.layout = simpler.layout := by
  induction rewrites with
  | here simplifies => exact simplifies.layout_eq
  | argument | cast | blob | left | right | firstConjunct | laterConjunct =>
      rename_i ih
      simp only [layout, List.map_append, List.map_cons, ih]
  | @slot operand simpler template before after _ ih =>
      have argument : (Value.expr operand).argumentLayout =
          (Value.expr simpler).argumentLayout := ih
      simp only [layout_fragment, List.map_append, List.map_cons, argument,
        List.length_append, List.length_cons]
  | keywordSlot | firstDisjunct | laterDisjunct | negated | nullCheck =>
      simp only [layout]
  | member values _ ih =>
      simp only [layout, ih]
  | value member before after rewrites ih =>
      obtain ⟨each, simplerEach⟩ := rewrites.ofValues_eq_each
      simp only [layout, ofValues_append_cons each before after,
        ofValues_append_cons simplerEach before after, List.map_append,
        List.map_cons, ih]

end Expr

theorem Assignment.Rewrites.layout_eq {assignment simpler : Assignment}
    (rewrites : assignment.Rewrites simpler) :
    assignment.layout = simpler.layout := by
  cases rewrites with
  | value column rewrites | amount column rewrites =>
      rw [layout, layout, rewrites.layout_eq]
  | setColumn value unqualifies | incrementColumn amount unqualifies =>
      rw [layout, layout, unqualifies.columnName_eq]

/-! ## Queries with the same layouts -/

namespace Query

/-- From the same table, with clauses that are laid out in the same way. -/
structure LaidOutAlike (query other : Query) : Prop where
  source : query.source = other.source
  selection :
    query.selection.map Expr.layout = other.selection.map Expr.layout
  filter : query.filter.map Expr.layout = other.filter.map Expr.layout
  grouping : query.grouping.map Expr.layout = other.grouping.map Expr.layout
  ordering :
    query.ordering.map OrderItem.layout = other.ordering.map OrderItem.layout
  limit : query.limit = other.limit
  hint : query.hint = other.hint
  assignments : query.assignments.map Assignment.layout =
    other.assignments.map Assignment.layout

namespace LaidOutAlike

variable {query other : Query}

theorem refl (query : Query) : LaidOutAlike query query :=
  ⟨rfl, rfl, rfl, rfl, rfl, rfl, rfl, rfl⟩

private theorem isEmpty_eq {layout : α → List Piece} {items others : List α}
    (same : items.map layout = others.map layout) :
    items.isEmpty = others.isEmpty := by
  rw [← List.isEmpty_map, same, List.isEmpty_map]

private theorem selectLayout_eq {items others : List Expr}
    (same : items.map Expr.layout = others.map Expr.layout) :
    selectLayout items = selectLayout others := by
  cases items <;> cases others <;> simp_all [selectLayout]

private theorem listLayout_eq {layout : α → List Piece}
    {clause : List α → List Piece} {items others : List α}
    (same : items.map layout = others.map layout)
    (clause_eq : clause items = clause others) :
    listLayout clause items = listLayout clause others := by
  cases items <;> cases others <;> simp_all [listLayout]

variable (alike : LaidOutAlike query other)

include alike

private theorem writtenHint_eq : query.writtenHint = other.writtenHint := by
  rw [writtenHint, writtenHint, alike.hint]

theorem checkClauses_eq (operation : Operation) :
    query.checkClauses operation = other.checkClauses operation := by
  have filter := congrArg Option.isSome alike.filter
  rw [Option.isSome_map, Option.isSome_map] at filter
  have sets : query.sets = other.sets := by
    funext clause
    cases clause with
    | select => simp only [Query.sets, isEmpty_eq alike.selection]
    | «where» => exact filter
    | groupBy => simp only [Query.sets, isEmpty_eq alike.grouping]
    | orderBy => simp only [Query.sets, isEmpty_eq alike.ordering]
    | limit => simp only [Query.sets, alike.limit]
    | lock => simp only [Query.sets, alike.writtenHint_eq]
    | update => simp only [Query.sets, isEmpty_eq alike.assignments]
    | insert | options => rfl
  rw [checkClauses, checkClauses, alike.writtenHint_eq, sets]

theorem readingLayout_eq : query.readingLayout = other.readingLayout := by
  have filter : query.filter.map whereLayout =
      other.filter.map whereLayout := by
    have same := congrArg (Option.map (.plain "WHERE " :: ·)) alike.filter
    rwa [Option.map_map, Option.map_map] at same
  have grouping : listLayout groupByLayout query.grouping =
      listLayout groupByLayout other.grouping :=
    listLayout_eq alike.grouping (by
      rw [groupByLayout, groupByLayout, alike.grouping])
  have ordering : listLayout orderByLayout query.ordering =
      listLayout orderByLayout other.ordering :=
    listLayout_eq alike.ordering (by
      rw [orderByLayout, orderByLayout, alike.ordering])
  rw [readingLayout, readingLayout, selectLayout_eq alike.selection,
    alike.source, filter, grouping, ordering, alike.limit, alike.writtenHint_eq]

private theorem filter_cases :
    query.filter = none ∧ other.filter = none ∨
      ∃ filter otherFilter, query.filter = some filter ∧
        other.filter = some otherFilter ∧
        filter.layout = otherFilter.layout := by
  have same := alike.filter
  cases found : query.filter with
  | none =>
      rw [found, Option.map_none] at same
      exact .inl ⟨rfl, Option.map_eq_none_iff.mp same.symm⟩
  | some filter =>
      rw [found, Option.map_some] at same
      obtain ⟨otherFilter, otherFound, layouts⟩ :=
        Option.map_eq_some_iff.mp same.symm
      exact .inr ⟨filter, otherFilter, rfl, otherFound, layouts.symm⟩

theorem updateAllLayout_eq (requested : Option Guard) :
    query.updateAllLayout requested = other.updateAllLayout requested := by
  rw [updateAllLayout, updateAllLayout, alike.checkClauses_eq,
    isEmpty_eq alike.assignments, alike.assignments, alike.source]
  rcases alike.filter_cases with
    ⟨none, otherNone⟩ | ⟨filter, otherFilter, found, otherFound, layouts⟩
  · simp only [none, otherNone]
  · simp only [found, otherFound, layouts]

theorem deleteAllLayout_eq (requested : Option Guard) :
    query.deleteAllLayout requested = other.deleteAllLayout requested := by
  rw [deleteAllLayout, deleteAllLayout, alike.checkClauses_eq, alike.source]
  rcases alike.filter_cases with
    ⟨none, otherNone⟩ | ⟨filter, otherFilter, found, otherFound, layouts⟩
  · simp only [none, otherNone]
  · simp only [found, otherFound, layouts]

theorem compile_eq (operation : Value) (options : Options) :
    query.compile operation options = other.compile operation options := by
  unfold compile
  cases operation.operation? with
  | none => rfl
  | some known =>
      have layouts (requested : Option Guard) :
          query.layoutFor requested known =
            other.layoutFor requested known := by
        cases known with
        | all => exact alike.readingLayout_eq
        | updateAll => exact alike.updateAllLayout_eq requested
        | deleteAll => exact alike.deleteAllLayout_eq requested
        | insert | update | delete => rfl
      simp only [textFor_eq, layouts]

end LaidOutAlike

/-! ## Rewritten queries -/

theorem Rewrites.laidOutAlike {query rewritten : Query}
    (rewrites : query.Rewrites rewritten) :
    query.LaidOutAlike rewritten := by
  cases rewrites with
  | selection query before after rewrites =>
      exact { LaidOutAlike.refl query with
        selection := by
          simp only [List.map_append, List.map_cons, rewrites.layout_eq] }
  | filter query rewrites =>
      exact { LaidOutAlike.refl query with
        filter := congrArg some rewrites.layout_eq }
  | grouping query before after rewrites =>
      exact { LaidOutAlike.refl query with
        grouping := by
          simp only [List.map_append, List.map_cons, rewrites.layout_eq] }
  | ordering query direction before after rewrites =>
      exact { LaidOutAlike.refl query with
        ordering := by
          simp only [List.map_append, List.map_cons, OrderItem.layout,
            rewrites.layout_eq] }
  | assignment query before after rewrites =>
      exact { LaidOutAlike.refl query with
        assignments := by
          simp only [List.map_append, List.map_cons, rewrites.layout_eq] }

/-- However often a query is rewritten, every operation has the same outcome:
the same statement, or the same refusal. -/
theorem compile_eq_of_rewrites {query rewritten : Query}
    (steps : Relation.ReflTransGen Rewrites query rewritten)
    (operation : Value) (options : Options) :
    query.compile operation options = rewritten.compile operation options := by
  induction steps with
  | refl => rfl
  | tail _ rewrites ih =>
      exact ih.trans (rewrites.laidOutAlike.compile_eq operation options)

def nestedSearch : Query :=
  { source := ⟨"visits", none⟩
    selection := [.call .token [.column "v.id"]]
    filter := some (.and (.compare .greater (.column "at") (.param (.int 5)))
      [.and
        (.membership (.column "kind")
          [.param (.list [.int 1, .list [.int 2]])])
        [.fragment "f(?)" [.expr (.column "v.note")]]])
    grouping := [], ordering := [], limit := none, hint := none
    assignments := [] }

def plainSearch : Query :=
  { nestedSearch with
    selection := [.call .token [.column "id"]]
    filter := some (.and (.compare .greater (.column "at") (.param (.int 5)))
      [.membership (.column "kind") [.param (.int 1), .param (.list [.int 2])],
        .fragment "f(?)" [.expr (.column "note")]]) }

theorem nestedSearch_rewrites :
    Relation.ReflTransGen Rewrites nestedSearch plainSearch := by
  have unqualifies (column : String) (plain : '.' ∉ column.toList) :
      Unqualifies ("v." ++ column) column := by
    have single : "v." = "v" ++ "." := by decide
    rw [single]
    exact .intro (by decide) plain
  have dropped : nestedSearch.Rewrites _ :=
    .selection nestedSearch [] [] <| .argument .token [] [] <| .here <|
      .unqualified (unqualifies "id" (by decide))
  have dissolved := Rewrites.filter
    { nestedSearch with selection := [.call .token [.column "id"]] } <|
      .here (.laterConjunction
        (.compare .greater (.column "at") (.param (.int 5)))
        (.membership (.column "kind")
          [.param (.list [.int 1, .list [.int 2]])]) []
        [.fragment "f(?)" [.expr (.column "v.note")]] [])
  have spread := Rewrites.filter
    { nestedSearch with selection := [.call .token [.column "id"]] } <|
      .laterConjunct (.compare .greater (.column "at") (.param (.int 5))) []
        [.fragment "f(?)" [.expr (.column "v.note")]] <| .here <|
        .boundList (.column "kind")
          (show Value.SpreadsTo (.list [.int 1, .list [.int 2]]) _ from
            ⟨rfl, .inl (by decide)⟩)
  have inFragment := Rewrites.filter
    { nestedSearch with selection := [.call .token [.column "id"]] } <|
      .laterConjunct (.compare .greater (.column "at") (.param (.int 5)))
        [.membership (.column "kind")
          [.param (.int 1), .param (.list [.int 2])]] [] <|
        .slot "f(?)" [] [] <| .here <|
          .unqualified (unqualifies "note" (by decide))
  exact (((Relation.ReflTransGen.single dropped).tail dissolved).tail
    spread).tail inFragment

def plainSearchText : String :=
  "SELECT token(id) FROM visits WHERE at > ? AND kind IN (?,?) AND f(note)"

theorem compile_eq_of_rewrites_nestedSearch :
    Relation.ReflTransGen Rewrites nestedSearch plainSearch ∧
      nestedSearch.compile (.text "select") [] =
        plainSearch.compile (.text "select") [] ∧
      plainSearch.compile (.text "select") [] =
        .ok ⟨.all, plainSearchText, [.int 5, .int 1, .list [.int 2]], []⟩ :=
  ⟨nestedSearch_rewrites, compile_eq_of_rewrites nestedSearch_rewrites _ _,
    by cbv⟩

end Query

end StructuredCql
