import StructuredCql.ErrorReport
import StructuredCql.Proofs.Flaws
import StructuredCql.Proofs.Outcomes
import StructuredCql.Proofs.Writable
import StructuredCql.Statement

/-!
# Refusals and their reports

A refusal has a report unless the report would show a value that cannot be
written.  So whatever is made from writable values is refused with a report,
if it is refused.  This goes step by step: what is made in steps fails only
as one of the steps does.
-/

namespace StructuredCql

open StructuredCql.Text

namespace Build

/-- Whatever is bound, the text is refused for an admitted cause, if at
all. -/
def RefusesOnly {α : Type} (admits : CompileError → Prop) (build : Build α) :
    Prop :=
  ∀ binder, FailsOnly admits (build.runWith binder).1

namespace RefusesOnly

variable {α β : Type} {admits : CompileError → Prop}

theorem pure (result : α) :
    RefusesOnly admits (Pure.pure result : Build α) :=
  fun _ => .ok result

theorem checked {outcome : Except CompileError α}
    (all : FailsOnly admits outcome) : RefusesOnly admits (checked outcome) :=
  fun _ => all

theorem refuse {cause : CompileError} (admitted : admits cause) :
    RefusesOnly admits (refuse cause : Build α) :=
  fun _ => .error admitted

theorem bind {build : Build α} {next : α → Build β}
    (first : RefusesOnly admits build)
    (second : ∀ result, RefusesOnly admits (next result)) :
    RefusesOnly admits (build >>= next) := by
  intro binder
  have made := first binder
  rw [runWith_bind]
  cases found : build.runWith binder with
  | mk outcome middle =>
      rw [found] at made
      cases outcome with
      | error cause => exact .error (made cause rfl)
      | ok result => exact second result middle

end RefusesOnly

end Build

/-! ## Causes with a report -/

namespace CompileError

def IsReported (cause : CompileError) : Prop := cause.report?.isSome

theorem isReported_of_showing {value : Value} {report : Value → ErrorReport}
    (writable : value.isWritable) : (showing value report).isSome := by
  simp [showing, writable]

end CompileError

open CompileError (IsReported)

theorem checkedName_failsOnly (role : NameRole) (name : String) :
    FailsOnly IsReported (checkedName role name) := by
  unfold checkedName
  split
  · exact .ok name
  · exact .error rfl

theorem columnName_failsOnly (name : String) :
    FailsOnly IsReported (columnName name) := by
  unfold columnName
  split
  · exact checkedName_failsOnly _ _
  · exact (checkedName_failsOnly _ _).bind fun _ _ => checkedName_failsOnly _ _

theorem Source.tableName_failsOnly (source : Source) :
    FailsOnly IsReported source.tableName := by
  unfold tableName
  split
  · exact checkedName_failsOnly _ _
  · exact checkedName_failsOnly _ _
  · exact (checkedName_failsOnly _ _).bind fun _ _ =>
      (checkedName_failsOnly _ _).bind fun _ _ => .ok _

theorem Value.constant_failsOnly {value : Value} (writable : value.isWritable) :
    FailsOnly IsReported value.constant := by
  intro cause refused
  cases value with
  | null =>
      cases refused
      rfl
  | int number =>
      rw [Value.isWritable] at writable
      rw [(Value.constant_int_eq_error.mp refused).1] at writable
      cases writable
  | list | tuple | mapping | expr | assignment | source | orderItem | limit
      | now =>
      cases refused
      exact CompileError.isReported_of_showing writable
  | _ => cases refused

theorem hintClause_failsOnly (hint : String) :
    FailsOnly IsReported (hintClause hint) := by
  unfold hintClause
  split
  · exact .ok hint
  · exact .error rfl

theorem guardFor_failsOnly (requested : Option Guard) (operation : Operation) :
    FailsOnly IsReported (guardFor requested operation) := by
  unfold guardFor
  split
  · exact .ok _
  · split_ifs
    · exact .ok _
    · exact .ok _
    · exact .error rfl

theorem Options.guard_failsOnly (options : Options) :
    FailsOnly IsReported options.guard := by
  unfold Options.guard
  split
  · exact .ok _
  · exact .error rfl

/-! ## Expressions -/

theorem mem_refusals {α : Type} {outcome : Except CompileError α}
    {cause : CompileError} :
    cause ∈ refusals outcome ↔ outcome = .error cause := by
  cases outcome <;> simp [refusals, eq_comm]

private theorem forall_mem_slotFlaws {template : String}
    {args : List (List CompileError)}
    (each : ∀ causes ∈ args, ∀ cause ∈ causes, cause.IsReported) :
    ∀ cause ∈ slotFlaws template args, cause.IsReported := by
  intro cause member
  simp only [slotFlaws, List.mem_append, List.mem_flatten,
    List.mem_replicate] at member
  rcases member with (⟨causes, isArg, member⟩ | ⟨_, rfl⟩) | member
  · exact each causes (List.mem_of_mem_take isArg) cause member
  · rfl
  · split at member
    · cases List.mem_singleton.mp member
      rfl
    · cases member

theorem Expr.isReported_of_mem_flaws {operand : Expr}
    (writable : operand.isWritable) :
    ∀ cause ∈ operand.flaws, cause.IsReported := by
  induction operand using partInduction with
  | whole operand ih =>
  have inner : ∀ part ∈ operand.parts, ∀ cause ∈ part.flaws,
      cause.IsReported := fun part member =>
    ih part member (isWritable_of_mem_parts writable member)
  intro cause member
  cases operand with
  | column name =>
      rw [flaws, mem_refusals] at member
      exact columnName_failsOnly name cause member
  | literal value =>
      rw [flaws, mem_refusals] at member
      exact Value.constant_failsOnly writable cause member
  | param | or | not | nullCheck =>
      simp only [flaws, List.mem_singleton, List.not_mem_nil] at member
      try
        cases member
        rfl
  | call function args =>
      rw [flaws, List.mem_flatMap] at member
      obtain ⟨arg, isArg, member⟩ := member
      exact inner arg isArg cause member
  | cast operand typeName =>
      rw [flaws, List.mem_append, mem_refusals] at member
      rcases member with member | refused
      · exact inner operand List.mem_cons_self cause member
      · exact checkedName_failsOnly _ _ cause refused
  | blob operand typeName =>
      rw [flaws, List.mem_append, mem_refusals] at member
      rcases member with refused | member
      · exact checkedName_failsOnly _ _ cause refused
      · exact inner operand List.mem_cons_self cause member
  | fragment template args =>
      rw [flaws_fragment] at member
      refine forall_mem_slotFlaws ?_ cause member
      rw [List.forall_mem_map]
      intro arg isArg
      unfold Value.argumentFlaws
      cases read : Expr.ofValue arg with
      | ok operand => exact inner operand (mem_parts_fragment isArg read)
      | error issues =>
          rw [List.forall_mem_singleton]
          exact CompileError.isReported_of_showing
            (Value.areWritable_iff.mp writable arg isArg)
  | keywords entries args =>
      rw [flaws, List.mem_singleton] at member
      subst member
      rw [isWritable, Bool.and_eq_true, Value.keywordsAreWritable_iff]
        at writable
      apply CompileError.isReported_of_showing
      rw [Value.isWritable, Value.entriesAreWritable_iff, List.forall_mem_map]
      exact fun entry isEntry => ⟨rfl, writable.1 entry isEntry⟩
  | compare comparison left right =>
      rw [flaws, List.mem_append] at member
      rcases member with member | member
      · exact inner left List.mem_cons_self cause member
      · exact inner right (List.mem_cons_of_mem _ List.mem_cons_self) cause
          member
  | and first rest =>
      rw [flaws, List.mem_append, List.mem_flatMap] at member
      rcases member with member | ⟨part, isPart, member⟩
      · exact inner first List.mem_cons_self cause member
      · exact inner part (List.mem_cons_of_mem _ isPart) cause member
  | membership operand values =>
      rw [flaws] at member
      simp only [parts] at inner
      cases found : Membership.ofValues values with
      | empty =>
          rw [found] at member
          cases List.mem_singleton.mp member
          rfl
      | bound items =>
          rw [found] at member inner
          exact inner operand List.mem_cons_self cause member
      | inlined items =>
          simp only [found, List.mem_append, List.mem_flatMap, mem_refusals]
            at member inner
          rcases member with member | ⟨item, isItem, refused⟩
          · exact inner operand List.mem_cons_self cause member
          · obtain ⟨value, held, _, rfl⟩ :=
              Membership.ofValues_eq_inlined found
            simp only [isWritable, areWritable, Bool.and_true,
              Bool.and_eq_true] at writable
            have elements : value.elements? = some items := by
              rw [Value.elements?, held, Option.some_or]
            exact Value.constant_failsOnly
              (Value.isWritable_of_mem_elements writable.2 elements isItem)
              cause refused
      | each =>
          simp only [found, List.mem_append, List.mem_flatMap] at member inner
          rcases member with member | ⟨value, isValue, member⟩
          · exact inner operand List.mem_cons_self cause member
          · exact inner value (List.mem_cons_of_mem _ isValue) cause member

theorem Piece.writeAll_refusesOnly {pieces : List Piece}
    (each : ∀ cause ∈ Piece.flaws pieces, cause.IsReported) :
    (Piece.writeAll pieces).RefusesOnly IsReported := by
  intro binder cause refused
  rw [Piece.runWith_writeAll] at refused
  cases found : Piece.flaws pieces with
  | nil =>
      rw [found] at refused
      cases refused
  | cons first others =>
      rw [found] at refused
      cases refused
      exact each cause (by simp [found])

namespace Expr

theorem render_refusesOnly {operand : Expr} (writable : operand.isWritable) :
    operand.render.RefusesOnly IsReported := by
  rw [render_eq_writeAll]
  refine Piece.writeAll_refusesOnly ?_
  rw [flaws_layout]
  exact isReported_of_mem_flaws writable

theorem renderAll_refusesOnly {operands : List Expr}
    (writable : ∀ operand ∈ operands, operand.isWritable) :
    (renderAll operands).RefusesOnly IsReported := by
  induction operands with
  | nil =>
      rw [renderAll]
      exact .pure []
  | cons operand rest ih =>
      rw [List.forall_mem_cons] at writable
      rw [renderAll]
      exact (render_refusesOnly writable.1).bind fun _ =>
        (ih writable.2).bind fun _ => .pure _

end Expr

/-! ## Queries -/

structure Query.Writable (query : Query) : Prop where
  selection : ∀ operand ∈ query.selection, operand.isWritable
  filter : ∀ operand ∈ query.filter, operand.isWritable
  grouping : ∀ operand ∈ query.grouping, operand.isWritable
  ordering : ∀ item ∈ query.ordering, item.operand.isWritable
  limit : ∀ count ∈ query.limit, Whole.isWritable count
  assignments : ∀ change ∈ query.assignments, change.isWritable

theorem selectClause_refusesOnly {items : List Expr}
    (writable : ∀ item ∈ items, item.isWritable) :
    (selectClause items).RefusesOnly IsReported := by
  unfold selectClause
  split
  · exact .pure _
  · exact (Expr.renderAll_refusesOnly writable).bind fun _ => .pure _

theorem groupByClause_refusesOnly {items : List Expr}
    (writable : ∀ item ∈ items, item.isWritable) :
    (groupByClause items).RefusesOnly IsReported :=
  (Expr.renderAll_refusesOnly writable).bind fun _ => .pure _

theorem OrderItem.render_refusesOnly {item : OrderItem}
    (writable : item.operand.isWritable) :
    item.render.RefusesOnly IsReported := by
  refine (Expr.render_refusesOnly writable).bind fun text => ?_
  cases item.direction <;> exact .pure _

theorem orderByClause_refusesOnly {items : List OrderItem}
    (writable : ∀ item ∈ items, item.operand.isWritable) :
    (orderByClause items).RefusesOnly IsReported := by
  have texts : (orderItems items).RefusesOnly IsReported := by
    induction items with
    | nil => exact .pure []
    | cons item rest ih =>
        rw [List.forall_mem_cons] at writable
        exact (OrderItem.render_refusesOnly writable.1).bind fun _ =>
          (ih writable.2).bind fun _ => .pure _
  exact texts.bind fun _ => .pure _

theorem limitClause_refusesOnly {count : Nat}
    (writable : Whole.isWritable count) :
    (limitClause count).RefusesOnly IsReported := by
  rw [limitClause, if_pos writable]
  exact .pure _

theorem Assignment.render_refusesOnly {change : Assignment}
    (writable : change.isWritable) :
    change.render.RefusesOnly IsReported := by
  cases change <;>
    exact (Build.RefusesOnly.checked (columnName_failsOnly _)).bind fun _ =>
      (Expr.render_refusesOnly writable).bind fun _ => .pure _

theorem assignmentList_refusesOnly {changes : List Assignment}
    (writable : ∀ change ∈ changes, change.isWritable) :
    (assignmentList changes).RefusesOnly IsReported := by
  have texts : (assignmentTexts changes).RefusesOnly IsReported := by
    induction changes with
    | nil => exact .pure []
    | cons change rest ih =>
        rw [List.forall_mem_cons] at writable
        exact (Assignment.render_refusesOnly writable.1).bind fun _ =>
          (ih writable.2).bind fun _ => .pure _
  exact texts.bind fun _ => .pure _

namespace Query

theorem optionalClause_refusesOnly {α : Type} {clause : α → Build String}
    {slot : Option α}
    (each : ∀ item ∈ slot, (clause item).RefusesOnly IsReported) :
    (optionalClause clause slot).RefusesOnly IsReported := by
  cases slot with
  | none => exact .pure []
  | some item => exact (each item rfl).bind fun _ => .pure _

theorem listClause_refusesOnly {α : Type} {clause : List α → Build String}
    {items : List α} (whole : (clause items).RefusesOnly IsReported) :
    (listClause clause items).RefusesOnly IsReported := by
  cases items with
  | nil => exact .pure []
  | cons => exact whole.bind fun _ => .pure _

theorem checkClauses_failsOnly (query : Query) (operation : Operation) :
    FailsOnly IsReported (query.checkClauses operation) := by
  unfold checkClauses
  cases (foreignClauses operation).find? query.sets with
  | none =>
      cases query.writtenHint with
      | none => exact .ok ()
      | some hint => exact (hintClause_failsOnly hint).bind fun _ _ => .ok ()
  | some clause =>
      cases query.writtenHint with
      | none => exact .error rfl
      | some hint => exact (hintClause_failsOnly hint).bind fun _ _ => .error rfl

variable {query : Query} (writable : query.Writable)

include writable

theorem selectText_refusesOnly :
    query.selectText.RefusesOnly IsReported := by
  refine (selectClause_refusesOnly writable.selection).bind fun _ => ?_
  refine (Build.RefusesOnly.checked
    query.source.tableName_failsOnly).bind fun _ => ?_
  refine (optionalClause_refusesOnly fun filter held =>
    (Expr.render_refusesOnly (writable.filter filter held)).bind
      fun _ => .pure _).bind fun _ => ?_
  refine (listClause_refusesOnly
    (groupByClause_refusesOnly writable.grouping)).bind fun _ => ?_
  refine (listClause_refusesOnly
    (orderByClause_refusesOnly writable.ordering)).bind fun _ => ?_
  refine (optionalClause_refusesOnly fun count held =>
    limitClause_refusesOnly (writable.limit count held)).bind fun _ => ?_
  refine (optionalClause_refusesOnly fun hint _ =>
    .checked (hintClause_failsOnly hint)).bind fun _ => ?_
  exact .pure _

theorem updateAllText_refusesOnly (requested : Option Guard) :
    (query.updateAllText requested).RefusesOnly IsReported := by
  refine (Build.RefusesOnly.checked
    (query.checkClauses_failsOnly _)).bind fun _ => ?_
  cases query.assignments.isEmpty with
  | true =>
      have refused : (Build.refuse .noAssignments : Build String).RefusesOnly
          IsReported := .refuse rfl
      exact refused
  | false =>
      cases found : query.filter with
      | none => exact .refuse rfl
      | some filter =>
          refine (Build.RefusesOnly.checked
            query.source.tableName_failsOnly).bind fun _ => ?_
          refine (assignmentList_refusesOnly writable.assignments).bind
            fun _ => ?_
          refine (Expr.render_refusesOnly
            (writable.filter filter found)).bind fun _ => ?_
          exact (Build.RefusesOnly.checked (guardFor_failsOnly _ _)).bind
            fun _ => .pure _

theorem deleteAllText_refusesOnly (requested : Option Guard) :
    (query.deleteAllText requested).RefusesOnly IsReported := by
  refine (Build.RefusesOnly.checked
    (query.checkClauses_failsOnly _)).bind fun _ => ?_
  refine (Build.RefusesOnly.checked
    query.source.tableName_failsOnly).bind fun _ => ?_
  refine (Build.RefusesOnly.checked
    (guardFor_failsOnly _ _)).bind fun guard => ?_
  cases found : query.filter with
  | none =>
      cases guard with
      | none => exact .pure _
      | some guard => exact .refuse rfl
  | some filter =>
      exact (Expr.render_refusesOnly (writable.filter filter found)).bind
        fun _ => .pure _

theorem textFor_refusesOnly (requested : Option Guard)
    (operation : Operation) :
    (query.textFor requested operation).RefusesOnly IsReported := by
  cases operation with
  | all => exact selectText_refusesOnly writable
  | updateAll => exact updateAllText_refusesOnly writable requested
  | deleteAll => exact deleteAllText_refusesOnly writable requested
  | _ => exact .refuse rfl

end Query

end StructuredCql
