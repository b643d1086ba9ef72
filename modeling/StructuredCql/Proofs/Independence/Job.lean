import StructuredCql.Proofs.Independence.Query
import StructuredCql.Proofs.Layout.Job

/-!
# The text of statements and bound values

Jobs that differ only in values to be bound are all done or all refused, and
their statements have the same text.  A value of a row is bound whatever it is;
only in an inserted row does it matter whether a value is left to the cluster.
-/

namespace StructuredCql

open Piece

variable {related : Value → Value → Prop}

/-! ## Statements from layouts that are alike -/

namespace SameOutcome

variable {ε α β γ δ : Type} {further : γ → δ → Prop}

theorem after (outcome : Except ε α) {f : α → Except ε γ} {g : α → Except ε δ}
    (same : ∀ result, SameOutcome further (f result) (g result)) :
    SameOutcome further (outcome >>= f) (outcome >>= g) := by
  cases outcome with
  | error => trivial
  | ok result => exact same result

theorem orRefuse {left : Except CompileError γ} {right : Except CompileError δ}
    (same : SameOutcome further left right) :
    SameOutcome further (StructuredCql.orRefuse left)
      (StructuredCql.orRefuse right) := by
  obtain ⟨_, _, rfl, rfl, alike⟩ | ⟨_, _, rfl, rfl⟩ := same.cases
  · exact alike
  · trivial

end SameOutcome

/-- The same text, with values that go together one by one. -/
structure Statement.Alike (related : Value → Value → Prop)
    (statement other : Statement) : Prop where
  text_eq : statement.text = other.text
  params : List.Forall₂ related statement.params other.params

theorem Statement.sameOutcome_of_layouts {left right : List Piece}
    (same : SameLayout related left right) (operation : Operation)
    (options : Options) :
    SameOutcome (Statement.Alike related)
      (ofBuild operation options (writeAll left))
      (ofBuild operation options (writeAll right)) := by
  unfold ofBuild
  rw [runWith_writeAll, runWith_writeAll]
  cases found : flaws left with
  | nil =>
      have otherFound := same.flaws_eq_nil_iff.mp found
      rw [otherFound, beforeFlaw_eq_self found, beforeFlaw_eq_self otherFound]
      exact ⟨same.written_eq _, same.carried_alike⟩
  | cons cause causes =>
      cases otherFound : flaws right with
      | nil => cases found.symm.trans (same.flaws_eq_nil_iff.mpr otherFound)
      | cons => trivial

theorem Query.Alike.compile {query other : Query}
    (alike : query.Alike related other) (operation : Value)
    (options : Options) :
    SameOutcome (Statement.Alike related) (query.compile operation options)
      (other.compile operation options) := by
  unfold Query.compile
  cases operation.operation? with
  | none => trivial
  | some known =>
      refine .after _ fun requested => ?_
      rw [textFor_eq, textFor_eq]
      exact Statement.sameOutcome_of_layouts (alike.layouts requested known) _ _

/-! ## Rows -/

/-- Rows for the same columns, with values that go together one by one. -/
def Row.Alike (related : Value → Value → Prop) : Row → Row → Prop :=
  List.Forall₂ fun entry other =>
    entry.1 = other.1 ∧ related entry.2 other.2

inductive Inserted (related : Value → Value → Prop) : Value → Value → Prop
  | generated : Inserted related .now .now
  | bound {value other : Value} (given : value ≠ .now)
      (otherGiven : other ≠ .now) (same : related value other) :
      Inserted related value other

namespace Row.Alike

private theorem made {α : Type} {fits : α → α → Prop}
    {make : String → Value → α} {row others : Row}
    (alike : Row.Alike related row others) (shape : Shape) (field : String)
    (same : ∀ name value other, related value other →
      fits (make name value) (make name other)) :
    SameOutcome (List.Forall₂ fits)
      (row.mapM fun entry => do
        let column ← columnOf shape field entry.1
        pure (make column entry.2))
      (others.mapM fun entry => do
        let column ← columnOf shape field entry.1
        pure (make column entry.2)) := by
  refine .mapM alike ?_
  rintro ⟨key, value⟩ ⟨_, other⟩ ⟨rfl, values⟩
  exact .after _ fun name => same name value other values

variable {row others : Row} (alike : Row.Alike related row others)

include alike

theorem named :
    SameOutcome (List.Forall₂ fun column other =>
        column.1 = other.1 ∧ related column.2 other.2)
      row.named others.named :=
  alike.made _ _ fun _ _ _ same => ⟨rfl, same⟩

theorem assignments :
    SameOutcome (List.Forall₂ (Assignment.Alike related)) row.assignments
      others.assignments := by
  have assignment (name : String) (value other : Value)
      (same : related value other) : Assignment.Alike related
        (.set name (.param value)) (.set name (.param other)) :=
    .set (.param (.bound same))
  exact alike.made .setAssignment "set" assignment

theorem equalityFilter :
    SameOutcome (Option.Rel (Expr.Alike related false)) row.equalityFilter
      others.equalityFilter := by
  have equation (name : String) (value other : Value)
      (same : related value other) : Expr.Alike related false
        (.compare .equal (.column name) (.param value))
        (.compare .equal (.column name) (.param other)) :=
    .compare (.column name) (.param (.bound same))
  refine (alike.made .column "col" equation).bind ?_
  rintro _ _ (_ | ⟨first, rest⟩)
  · exact .none
  · exact .some (.and first (.of_forall₂ rest))

end Row.Alike

/-! ### Inserted rows -/

theorem insertedLayout_of_ne_now {keys : List (String × KeyKind)}
    {column : String} {value : Value} (given : value ≠ .now) :
    insertedLayout keys column value = [.mark value] := by
  cases value with
  | now => exact absurd rfl given
  | _ => rfl

abbrev InsertedColumns (related : Value → Value → Prop) :
    List (String × Value) → List (String × Value) → Prop :=
  List.Forall₂ fun column other =>
    column.1 = other.1 ∧ Inserted related column.2 other.2

namespace InsertedColumns

variable {row others : List (String × Value)}
  (each : InsertedColumns related row others)

include each

private theorem any_eq (name : String) :
    row.any (·.1 = name) = others.any (·.1 = name) := by
  induction each with
  | nil => rfl
  | cons first _ ih => rw [List.any_cons, List.any_cons, first.1, ih]

theorem insertedColumns (keys : List (String × KeyKind)) :
    InsertedColumns related (StructuredCql.insertedColumns keys row)
      (StructuredCql.insertedColumns keys others) := by
  unfold StructuredCql.insertedColumns
  simp only [any_eq each]
  refine List.rel_append (List.forall₂_same.mpr ?_) each
  intro column member
  obtain ⟨key, _, rfl⟩ := List.mem_map.mp member
  exact ⟨rfl, .generated⟩

theorem insertLayouts (table : String) (keys : List (String × KeyKind))
    (guard : Except CompileError (Option Guard)) :
    SameLayout related (insertLayout table keys row guard)
      (insertLayout table keys others guard) := by
  have names : List.Forall₂ (SameLayout related)
      (row.map fun column => [ofText (columnName column.1)])
      (others.map fun column => [ofText (columnName column.1)]) := by
    refine List.rel_map ?_ each
    rintro ⟨name, _⟩ ⟨_, _⟩ ⟨rfl, _⟩
    exact .ofText _
  have values : List.Forall₂ (SameLayout related)
      (row.map fun column => insertedLayout keys column.1 column.2)
      (others.map fun column => insertedLayout keys column.1 column.2) := by
    refine List.rel_map ?_ each
    rintro ⟨name, value⟩ ⟨_, other⟩ ⟨rfl, inserted⟩
    change SameLayout related (insertedLayout keys name value)
      (insertedLayout keys name other)
    cases inserted with
    | generated => exact .cons (.plain _) .nil
    | bound given otherGiven same =>
        rw [insertedLayout_of_ne_now given, insertedLayout_of_ne_now otherGiven]
        exact .cons (.mark same) .nil
  exact .cons (.plain _) (((SameLayout.separated ", " names).append
    (.cons (.plain _) ((SameLayout.separated ", " values).append
      (.cons (.plain _) .nil)))).append (.ofGuard guard))

end InsertedColumns

/-! ## Statements for one row -/

private theorem changeText_eq (table : String) (assignments : List Assignment)
    (filter : Expr) (guard : Except CompileError (Option Guard)) :
    (do
      let sets ← assignmentList assignments
      let condition ← filter.render
      let guard ← Build.checked guard
      pure (guarded
        ("UPDATE " ++ table ++ " SET " ++ sets ++ " WHERE " ++ condition)
        guard)) =
      writeAll (.plain ("UPDATE " ++ table ++ " SET ") ::
        (separated ", " (assignments.map Assignment.layout) ++
          .plain " WHERE " :: filter.layout) ++ ofGuard guard) := by
  rw [writeAll_append_ofGuard, assignmentList_eq, Expr.render_eq_writeAll]
  simp only [writeAll, writeAll_append, write_plain, pure_bind, bind_assoc,
    String.append_assoc]

private theorem removalText_eq (table : String) (filter : Expr)
    (guard : Except CompileError (Option Guard)) :
    (do
      let condition ← filter.render
      let guard ← Build.checked guard
      pure (guarded ("DELETE FROM " ++ table ++ " WHERE " ++ condition)
        guard)) =
      writeAll (.plain ("DELETE FROM " ++ table ++ " WHERE ") ::
        filter.layout ++ ofGuard guard) := by
  rw [writeAll_append_ofGuard, Expr.render_eq_writeAll]
  simp only [writeAll, write_plain, pure_bind, bind_assoc]

namespace Row.Alike

variable (keyspace table : Value) (options : Options)

theorem insertRow {fields others : Row}
    (alike : Row.Alike (Inserted related) fields others) (generated : Row) :
    SameOutcome (Statement.Alike related)
      (StructuredCql.insertRow keyspace table fields generated options)
      (StructuredCql.insertRow keyspace table others generated options) := by
  refine .after _ fun requested => alike.named.bind fun row further named => ?_
  refine .after _ fun declarations => .after _ fun keys => ?_
  have columns := InsertedColumns.insertedColumns named keys
  dsimp only
  rw [isEmpty_eq_of_forall₂ columns]
  split
  · trivial
  · refine .after _ fun name => SameOutcome.orRefuse ?_
    rw [insertText_eq, insertText_eq]
    exact Statement.sameOutcome_of_layouts
      (columns.insertLayouts name keys _) _ _

theorem updateRow {fields others filters further : Row}
    (alike : Row.Alike related fields others)
    (filtersAlike : Row.Alike related filters further) :
    SameOutcome (Statement.Alike related)
      (StructuredCql.updateRow keyspace table fields filters options)
      (StructuredCql.updateRow keyspace table others further options) := by
  refine .after _ fun requested => ?_
  dsimp only
  rw [isEmpty_eq_of_forall₂ alike]
  split
  · trivial
  · refine filtersAlike.equalityFilter.bind ?_
    intro condition other found
    cases found with
    | none => trivial
    | some found =>
        refine .after _ fun name => alike.assignments.bind ?_
        intro assignments changes same
        refine SameOutcome.orRefuse ?_
        rw [changeText_eq, changeText_eq]
        refine Statement.sameOutcome_of_layouts ?_ _ _
        exact .cons (.plain _) (((SameLayout.assignments same).append
          (.cons (.plain _) found.layouts)).append (.ofGuard _))

theorem deleteRow {filters others : Row}
    (alike : Row.Alike related filters others) :
    SameOutcome (Statement.Alike related)
      (StructuredCql.deleteRow keyspace table filters options)
      (StructuredCql.deleteRow keyspace table others options) := by
  refine .after _ fun requested => alike.equalityFilter.bind ?_
  intro condition other found
  cases found with
  | none => trivial
  | some found =>
      refine .after _ fun name => SameOutcome.orRefuse ?_
      rw [removalText_eq, removalText_eq]
      refine Statement.sameOutcome_of_layouts ?_ _ _
      exact .cons (.plain _) (found.layouts.append (.ofGuard _))

end Row.Alike

/-! ## Jobs -/

/-- Jobs that differ only in values to be bound. -/
inductive Job.Alike (related : Value → Value → Prop) : Job → Job → Prop
  | query {asked other : Query} {operation : Value} {options : Options}
      (queries : asked.Alike related other) :
      Job.Alike related (.query asked operation options)
        (.query other operation options)
  | insert {keyspace table : Value} {fields others generated : Row}
      {options : Options} (rows : Row.Alike (Inserted related) fields others) :
      Job.Alike related (.insert keyspace table fields generated options)
        (.insert keyspace table others generated options)
  | update {keyspace table : Value} {fields others filters further : Row}
      {options : Options} (rows : Row.Alike related fields others)
      (conditions : Row.Alike related filters further) :
      Job.Alike related (.update keyspace table fields filters options)
        (.update keyspace table others further options)
  | delete {keyspace table : Value} {filters others : Row} {options : Options}
      (conditions : Row.Alike related filters others) :
      Job.Alike related (.delete keyspace table filters options)
        (.delete keyspace table others options)

namespace Job

theorem Alike.compile {job other : Job} (alike : job.Alike related other) :
    SameOutcome (Statement.Alike related) job.compile other.compile := by
  cases alike with
  | query queries => exact (queries.compile _ _).orRefuse
  | insert rows => exact rows.insertRow _ _ _ _
  | update rows conditions => exact rows.updateRow _ _ _ conditions
  | delete conditions => exact conditions.deleteRow _ _ _

/-- The text of a statement does not depend on bound values, and whether there
is a statement does not either.  The entries of both lists of values come from
the same leaves, one by one: they are related where the leaves of the jobs are,
and where a job holds the names of its leaves in place of their values, both
lists are read off the same list of names. -/
theorem text_eq_and_params_alike {job other : Job}
    (alike : job.Alike related other) :
    ((∃ made, job.compile = .ok made) ↔ ∃ made, other.compile = .ok made) ∧
    ∀ made otherMade, job.compile = .ok made → other.compile = .ok otherMade →
      made.text = otherMade.text ∧
      List.Forall₂ related made.params otherMade.params ∧
      ∀ (named : Job) (held otherHeld : Value → Value),
        named.Alike (fun name value => held name = value) job →
        named.Alike (fun name value => otherHeld name = value) other →
        ∃ names : List Value, made.params = names.map held ∧
          otherMade.params = names.map otherHeld := by
  refine ⟨alike.compile.ok_iff_ok, ?_⟩
  intro made otherMade done otherDone
  have same := alike.compile.related_of_ok done otherDone
  refine ⟨same.text_eq, same.params, ?_⟩
  intro named held otherHeld filled otherFilled
  -- The job that holds the names is done too, and binds a list of names.
  obtain ⟨pattern, found⟩ := filled.compile.ok_iff_ok.mpr ⟨made, done⟩
  have read := (filled.compile.related_of_ok found done).params
  have otherRead := (otherFilled.compile.related_of_ok found otherDone).params
  rw [← List.forall₂_map_left_iff, List.forall₂_eq_eq_eq] at read otherRead
  exact ⟨pattern.params, read.symm, otherRead.symm⟩

def visits (ids site : Value) : Job :=
  query
    { source := ⟨"visits", some "app"⟩
      selection := [], grouping := [], ordering := [], limit := none
      hint := none, assignments := []
      filter := some (.and (.membership (.column "id") [.param ids])
        [.fragment "site = f(?)" [.mapping [(.text "param", site)]]]) }
    (.text "all") []

def visitsText : String :=
  "SELECT * FROM app.visits WHERE id IN (?,?) AND site = f(?)"

theorem visits_alike {ids others site other : Value}
    (each : Held related true ids others) (sites : related site other) :
    (visits ids site).Alike related (visits others other) := by
  have filters : Expr.Alike related false
      (.and (.membership (.column "id") [.param ids])
        [.fragment "site = f(?)" [.mapping [(.text "param", site)]]])
      (.and (.membership (.column "id") [.param others])
        [.fragment "site = f(?)" [.mapping [(.text "param", other)]]]) :=
    .and (.single (.column "id") (.param each)) (.cons
      (.fragment (.cons (.mapping (.param rfl (.bound sites) .nil)) .nil)) .nil)
  exact .query ⟨rfl, .nil, .some filters, .nil, .nil, rfl, rfl, .nil⟩

/-- The leaves are named by a truth value or by nothing. -/
def visitsBy (first second site : Value) : Value → Value
  | .bool true => first
  | .bool false => second
  | _ => site

theorem text_eq_and_params_of_visits :
    ∃ made otherMade,
      (visits (.list [.int 1, .int 2]) (.text "home")).compile = .ok made ∧
      (visits (.tuple [.text "?", .now]) .null).compile = .ok otherMade ∧
      made.text = visitsText ∧ made.text = otherMade.text ∧
      ∃ names : List Value,
        made.params =
          names.map (visitsBy (.int 1) (.int 2) (.text "home")) ∧
        otherMade.params = names.map (visitsBy (.text "?") .now .null) := by
  have done : (visits (.list [.int 1, .int 2]) (.text "home")).compile =
      .ok ⟨.all, visitsText, [.int 1, .int 2, .text "home"], []⟩ := by cbv
  have otherDone : (visits (.tuple [.text "?", .now]) .null).compile =
      .ok ⟨.all, visitsText, [.text "?", .now, .null], []⟩ := by cbv
  have alike : Job.Alike (fun _ _ => True)
      (visits (.list [.int 1, .int 2]) (.text "home"))
      (visits (.tuple [.text "?", .now]) .null) :=
    visits_alike (.items rfl rfl (.cons trivial (.cons trivial .nil))) trivial
  obtain ⟨_, same⟩ := text_eq_and_params_alike alike
  obtain ⟨text_eq, _, leaves⟩ := same _ _ done otherDone
  refine ⟨_, _, done, otherDone, rfl, text_eq, ?_⟩
  apply leaves (visits (.list [.bool true, .bool false]) .null)
  · exact visits_alike (.items rfl rfl (.cons rfl (.cons rfl .nil))) rfl
  · exact visits_alike (.items rfl rfl (.cons rfl (.cons rfl .nil))) rfl

example : (visits (.list [.int 1]) .null).compile =
    .ok ⟨.all, "SELECT * FROM app.visits WHERE id IN (?) AND site = f(?)",
      [.int 1, .null], []⟩ := by cbv

end Job

end StructuredCql
