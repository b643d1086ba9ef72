import StructuredCql.Proofs.Hints
import StructuredCql.Proofs.Mutations

/-!
# The clauses of a statement

Each operation on many rows carries some of the clauses that a query may set.
The main statement is that all of them stand in the statement as their own
text, in a fixed order and with the values that they bind, and that a query is
refused for a clause that its operation does not carry.  The only clause that
is neither written nor refused is the list of assignments of a query that reads.
-/

namespace StructuredCql

open StructuredCql.Text

/-- A text with the texts of its parts in it, which are made one after the
other.  What stands before, between and behind them binds nothing. -/
inductive Woven : List (Build String) → Binder → String → Binder → Prop
  | nil (binder : Binder) : Woven [] binder "" binder
  | between {parts : List (Build String)} {binder final : Binder}
      {rest : String} (text : String) :
      Woven parts binder rest final →
      Woven parts binder (text ++ rest) final
  | part {first : Build String} {parts : List (Build String)}
      {binder middle final : Binder} {text rest : String} :
      first.runWith binder = (.ok text, middle) →
      Woven parts middle rest final →
      Woven (first :: parts) binder (text ++ rest) final

/-- The clauses that the statement for an operation carries, in its order. -/
def carriedClauses : Operation → List Clause
  | .all => [.select, .where, .groupBy, .orderBy, .limit, .lock]
  | .updateAll => [.update, .where]
  | .deleteAll => [.where]
  | .insert | .update | .delete => []

namespace Query

def clauseText (query : Query) : Clause → Build String
  | .select => selectClause query.selection
  | .where => (query.filter.map whereClause).getD (pure "")
  | .groupBy => groupByClause query.grouping
  | .orderBy => orderByClause query.ordering
  | .limit => (query.limit.map limitClause).getD (pure "")
  | .lock =>
      (query.writtenHint.map fun hint =>
        Build.checked (hintClause hint)).getD (pure "")
  | .update => do
      let assignments ← assignmentList query.assignments
      pure ("SET " ++ assignments)
  | .insert | .options => pure ""

def clauseTexts (query : Query) (operation : Operation) :
    List (Build String) :=
  ((carriedClauses operation).filter query.sets).map query.clauseText

/-- Whether the hint is none, but a request for a lock. -/
def asksForLock (query : Query) : Bool :=
  query.writtenHint.any fun hint => !isFilteringHint hint.toList

end Query

namespace Woven

variable {parts : List (Build String)} {binder middle final : Binder}

def spaced (texts : List String) : String :=
  texts.foldr (fun text rest => " " ++ text ++ rest) ""

theorem joined_cons (first : String) (rest : List String) :
    joined " " (first :: rest) = first ++ spaced rest := by
  induction rest generalizing first with
  | nil => simp [joined, spaced]
  | cons next rest ih =>
      simp only [joined, ih, spaced, List.foldr_cons, String.append_assoc]

theorem spaced_cons (text : String) (rest : List String) :
    spaced (text :: rest) = " " ++ text ++ spaced rest := rfl

theorem spaced_append (first second : List String) :
    spaced (first ++ second) = spaced first ++ spaced second := by
  induction first with
  | nil => simp [spaced]
  | cons text rest ih => simp_all [spaced, String.append_assoc]

theorem spaced_part {text rest : String} {first : Build String}
    (made : first.runWith binder = (.ok text, middle))
    (woven : Woven parts middle rest final) :
    Woven (first :: parts) binder (spaced [text] ++ rest) final := by
  simpa [spaced, String.append_assoc] using between " " (part made woven)

theorem optional {clause : α → Build String} {value : Option α}
    {texts : List String} {rest : String}
    (made : (Query.optionalClause clause value).runWith binder =
      (.ok texts, middle))
    (woven : Woven parts middle rest final) :
    Woven
      ((if value.isSome then [(value.map clause).getD (pure "")] else []) ++
        parts)
      binder (spaced texts ++ rest) final := by
  cases value with
  | none =>
      cases made
      simpa [spaced] using woven
  | some value =>
      obtain ⟨text, _, rendered, made⟩ := Build.runWith_bind_eq_ok.mp made
      cases made
      exact spaced_part rendered woven

theorem list {clause : List α → Build String} {items : List α}
    {texts : List String} {rest : String}
    (made : (Query.listClause clause items).runWith binder =
      (.ok texts, middle))
    (woven : Woven parts middle rest final) :
    Woven ((if !items.isEmpty then [clause items] else []) ++ parts) binder
      (spaced texts ++ rest) final := by
  cases items with
  | nil =>
      cases made
      simpa [spaced] using woven
  | cons item rest =>
      obtain ⟨text, _, rendered, made⟩ := Build.runWith_bind_eq_ok.mp made
      cases made
      exact spaced_part rendered woven

theorem select {items : List Expr} {text rest : String}
    (made : (selectClause items).runWith binder = (.ok text, middle))
    (woven : Woven parts middle rest final) :
    Woven ((if !items.isEmpty then [selectClause items] else []) ++ parts)
      binder (text ++ rest) final := by
  cases items with
  | nil =>
      cases made
      exact between _ woven
  | cons item items => exact part made woven

end Woven

namespace Query

variable {query : Query} {requested : Option Guard} {text : String}
  {final : Binder}

theorem clauseTexts_eq (query : Query) (operation : Operation) :
    query.clauseTexts operation =
      (carriedClauses operation).flatMap fun clause =>
        if query.sets clause then [query.clauseText clause] else [] := by
  unfold clauseTexts
  induction carriedClauses operation with
  | nil => rfl
  | cons clause rest ih =>
      rw [List.filter_cons, List.flatMap_cons, ← ih]
      split <;> rfl

theorem woven_of_selectText
    (done : query.selectText.runWith .empty = (.ok text, final)) :
    Woven (query.clauseTexts .all) .empty text final := by
  obtain ⟨select, _, selected, done⟩ := Build.runWith_bind_eq_ok.mp done
  obtain ⟨table, _, done⟩ := Build.runWith_checked_bind_eq_ok.mp done
  obtain ⟨filter, _, filtered, done⟩ := Build.runWith_bind_eq_ok.mp done
  obtain ⟨grouping, _, grouped, done⟩ := Build.runWith_bind_eq_ok.mp done
  obtain ⟨ordering, _, ordered, done⟩ := Build.runWith_bind_eq_ok.mp done
  obtain ⟨limit, _, limited, done⟩ := Build.runWith_bind_eq_ok.mp done
  obtain ⟨hint, _, hinted, done⟩ := Build.runWith_bind_eq_ok.mp done
  cases done
  have behind := Woven.select selected <|
    .between (" FROM " ++ table) <|
    .optional filtered <| .list grouped <| .list ordered <|
    .optional limited <| .optional hinted <| .nil _
  rw [clauseTexts_eq]
  convert behind using 1
  · rfl
  · have from_eq : " " ++ ("FROM " ++ table) = " FROM " ++ table := by
      rw [← String.append_assoc]
      rfl
    simp only [List.cons_append, List.nil_append, Woven.joined_cons,
      Woven.spaced_cons, Woven.spaced_append, String.append_assoc, ← from_eq]
    simp [Woven.spaced]

theorem assigned_of_run
    (done : (query.updateAllText requested).runWith .empty =
      (.ok text, final)) : query.assignments.isEmpty = false := by
  unfold updateAllText at done
  obtain ⟨_, _, done⟩ := Build.runWith_checked_bind_eq_ok.mp done
  dsimp only at done
  split at done
  · cases done
  · next some => simpa using some

theorem checkClauses_of_run {operation : Operation}
    (bulk : operation = .updateAll ∨ operation = .deleteAll)
    (done : (query.textFor requested operation).runWith .empty =
      (.ok text, final)) : query.checkClauses operation = .ok () := by
  rcases bulk with rfl | rfl
  · obtain ⟨_, checked, _⟩ := Build.runWith_checked_bind_eq_ok.mp done
    exact checked
  · obtain ⟨_, checked, _⟩ := Build.runWith_checked_bind_eq_ok.mp done
    exact checked

theorem whereClause_of_run {filter : Expr} {binder : Binder}
    (rendered : filter.render.runWith binder = (.ok text, final)) :
    (whereClause filter).runWith binder = (.ok ("WHERE " ++ text), final) := by
  rw [whereClause, Build.runWith_bind, rendered]
  rfl

theorem woven_of_filter {filter : Expr} {condition : String}
    {binder : Binder} (guard : String)
    (rendered : filter.render.runWith binder = (.ok condition, final)) :
    Woven [whereClause filter] binder
      (" WHERE " ++ condition ++ guard) final := by
  have woven := Woven.between " "
    (.part (whereClause_of_run rendered) (.between guard (.nil final)))
  have keyword : " WHERE " = " " ++ "WHERE " := rfl
  simpa only [keyword, String.append_assoc, String.append_empty] using woven

theorem woven_of_updateAllText
    (done : (query.updateAllText requested).runWith .empty =
      (.ok text, final)) :
    ∃ last, Woven (query.clauseTexts .updateAll) .empty text last ∧
      final.params = last.params := by
  have assigned := assigned_of_run done
  obtain ⟨filter, filtered, confined⟩ := updateAll_of_run done
  obtain ⟨_, condition, middle, last, made, rendered, same, text_eq⟩ :=
    confined []
  dsimp only at same text_eq
  obtain ⟨table, named, made⟩ := Build.runWith_checked_bind_eq_ok.mp made
  obtain ⟨changes, _, listed, made⟩ := Build.runWith_bind_eq_ok.mp made
  cases made
  have both : query.clauseTexts .updateAll =
      [query.clauseText .update, whereClause filter] := by
    simp [clauseTexts, carriedClauses, sets, clauseText, assigned, filtered]
  have update : (query.clauseText .update).runWith .empty =
      (.ok ("SET " ++ changes), middle) := by
    rw [clauseText, Build.runWith_bind, listed]
    rfl
  refine ⟨last, ?_, same⟩
  rw [both]
  have woven := Woven.between ("UPDATE " ++ table ++ " ")
    (.part update (woven_of_filter
      (if requested = some .exists then " IF EXISTS" else "") rendered))
  have keyword : " SET " = " " ++ "SET " := rfl
  simpa only [text_eq, keyword, String.append_assoc] using woven

theorem woven_of_deleteAllText
    (done : (query.deleteAllText requested).runWith .empty =
      (.ok text, final)) :
    ∃ last, Woven (query.clauseTexts .deleteAll) .empty text last ∧
      final.params = last.params := by
  rcases deleteAll_of_run done with
    ⟨_, _, rfl, unset, _⟩ | ⟨filter, filtered, confined⟩
  · have none : query.clauseTexts .deleteAll = [] := by
      simp [clauseTexts, carriedClauses, unset]
    rw [none]
    refine ⟨.empty, ?_, rfl⟩
    simpa using Woven.between text (.nil .empty)
  · obtain ⟨_, condition, middle, last, made, rendered, same, text_eq⟩ :=
      confined []
    dsimp only at same text_eq
    obtain ⟨table, named, made⟩ := Build.runWith_checked_bind_eq_ok.mp made
    cases made
    have only : query.clauseTexts .deleteAll = [whereClause filter] := by
      simp [clauseTexts, carriedClauses, sets, clauseText, filtered]
    refine ⟨last, ?_, same⟩
    rw [only]
    have woven := Woven.between ("DELETE FROM " ++ table)
      (woven_of_filter
        (if requested = some .exists then " IF EXISTS" else "") rendered)
    simpa only [text_eq, String.append_assoc] using woven

end Query

/-- A query is refused, and the report of the refusal names a clause. -/
def Query.RefusedFor (query : Query) (operation : Value) (options : Options)
    (category : Category) (clause : Clause) : Prop :=
  ∃ cause report, query.compile operation options = .error cause ∧
    cause.report? = some report ∧ report.category = category ∧
    report.clause = some clause.name

section Compiled

variable {query : Query} {operation : Value} {known : Operation}
  {options : Options} {requested : Option Guard}

theorem Query.run_of_compile (named : operation.operation? = some known)
    {statement : Statement}
    (made : query.compile operation options = .ok statement) :
    ∃ requested text final,
      (query.textFor requested known).runWith .empty = (.ok text, final) ∧
        statement = ⟨known, text, final.params, options⟩ := by
  cases valid : Options.guard options with
  | error cause =>
      unfold compile at made
      rw [named, valid] at made
      cases made
  | ok requested =>
      rw [compile_eq_ofBuild named valid] at made
      exact ⟨requested, Statement.ofBuild_eq_ok.mp made⟩

theorem Query.woven_of_compile (named : operation.operation? = some known)
    {statement : Statement}
    (made : query.compile operation options = .ok statement) :
    ∃ final, Woven (query.clauseTexts known) .empty statement.text final ∧
      statement.params = final.params := by
  obtain ⟨_, text, final, done, rfl⟩ := run_of_compile named made
  cases known with
  | all => exact ⟨final, woven_of_selectText done, rfl⟩
  | updateAll => exact woven_of_updateAllText done
  | deleteAll => exact woven_of_deleteAllText done
  | insert | update | delete => cases done

theorem Query.carried_or_foreign {clause : Clause}
    (set : query.sets clause) (many : known.takesQuery) :
    clause ∈ carriedClauses known ∨ known = .all ∧ clause = .update ∨
      (known = .updateAll ∨ known = .deleteAll) ∧
        clause ∈ Query.foreignClauses known := by
  cases known with
  | insert | update | delete => cases many
  | all | updateAll | deleteAll =>
      cases clause with
      | insert | options => cases set
      | _ => simp [carriedClauses, foreignClauses]

theorem Query.not_mem_carriedClauses {clause : Clause}
    (bulk : known = .updateAll ∨ known = .deleteAll)
    (foreign : clause ∈ foreignClauses known) :
    clause ∉ carriedClauses known := by
  revert clause
  rcases bulk with rfl | rfl <;> decide

theorem Query.carried_of_compile (named : operation.operation? = some known)
    (many : known.takesQuery) {statement : Statement}
    (made : query.compile operation options = .ok statement)
    {clause : Clause} (set : query.sets clause) :
    clause ∈ carriedClauses known ∨ known = .all ∧ clause = .update := by
  obtain ⟨_, _, _, done, _⟩ := run_of_compile named made
  rcases carried_or_foreign set many with
    carried | reading | ⟨bulk, foreign⟩
  · exact .inl carried
  · exact .inr reading
  · have checked := checkClauses_of_run bulk done
    rw [sets_eq_false_of_checkClauses checked _ foreign] at set
    cases set

theorem Query.refusedFor_of_textFor {cause : CompileError}
    {report : ErrorReport} {clause : Clause}
    (named : operation.operation? = some known)
    (valid : Options.guard options = .ok requested)
    (refused : (query.textFor requested known).runWith .empty =
      (.error cause, .empty))
    (reported : cause.report? = some report)
    (concerned : report.clause = some clause.name) :
    query.RefusedFor operation options report.category clause := by
  refine ⟨cause, report, ?_, reported, rfl, concerned⟩
  rw [compile_eq_ofBuild named valid, Statement.ofBuild, refused]

theorem Query.refusedFor_options {cause : CompileError}
    (named : operation.operation? = some known)
    (invalid : Options.guard options = .error cause) :
    query.RefusedFor operation options .compilation .options := by
  have refused : query.compile operation options = .error cause := by
    unfold compile
    rw [named, invalid]
    rfl
  unfold Options.guard at invalid
  split at invalid
  · cases invalid
  · cases invalid
    exact ⟨_, _, refused, rfl, rfl, rfl⟩

theorem Query.checkClauses_of_find {misplaced : Clause}
    (unlocked : query.asksForLock = false)
    (found : (foreignClauses known).find? query.sets = some misplaced) :
    query.checkClauses known = .error (.misplacedClause misplaced known) := by
  unfold checkClauses
  rw [found]
  cases written : query.writtenHint with
  | none => rfl
  | some hint =>
      have filtering : isFilteringHint hint.toList := by
        simpa [asksForLock, written] using unlocked
      have accepted : hintClause hint = .ok hint := by
        unfold hintClause
        rw [if_pos filtering]
      dsimp only
      rw [accepted]
      rfl

theorem Query.misplaced_of_foreign {clause : Clause}
    (named : operation.operation? = some known)
    (valid : Options.guard options = .ok requested)
    (bulk : known = .updateAll ∨ known = .deleteAll)
    (unlocked : query.asksForLock = false)
    (set : query.sets clause) (foreign : clause ∈ foreignClauses known) :
    ∃ misplaced, query.sets misplaced ∧ misplaced ∉ carriedClauses known ∧
      query.RefusedFor operation options .compilation misplaced := by
  cases found : (foreignClauses known).find? query.sets with
  | none => exact absurd set (List.find?_eq_none.mp found clause foreign)
  | some misplaced =>
      have listed := List.mem_of_find?_eq_some found
      have refused : (query.textFor requested known).runWith .empty =
          (.error (.misplacedClause misplaced known), .empty) :=
        textFor_of_checkClauses bulk (checkClauses_of_find unlocked found)
      exact ⟨misplaced, List.find?_some found,
        not_mem_carriedClauses bulk listed,
        refusedFor_of_textFor named valid refused rfl rfl⟩

theorem Query.exists_hint_of_asksForLock (locked : query.asksForLock) :
    ∃ hint, query.writtenHint = some hint ∧
      isFilteringHint hint.toList = false ∧
      hintClause hint = .error (.unsupportedHint hint) := by
  unfold asksForLock at locked
  obtain ⟨hint, written, other⟩ := (Option.any_eq_true _ _).mp locked
  rw [Bool.not_eq_true'] at other
  refine ⟨hint, written, other, hintClause_of_not ?_⟩
  rw [← isFilteringHint_iff, other]
  exact Bool.false_ne_true

/-- A request for a lock is refused behind the clauses of a query that reads,
and before all else where rows are changed or deleted. -/
theorem Query.refusedFor_lock (named : operation.operation? = some known)
    (valid : Options.guard options = .ok requested)
    (many : known.takesQuery) (locked : query.asksForLock)
    (bare : known = .all → ∃ statement,
      { query with hint := none }.compile operation options =
        .ok statement) :
    query.RefusedFor operation options .locking .lock := by
  obtain ⟨hint, written, other, refused⟩ := exists_hint_of_asksForLock locked
  cases known with
  | insert | update | delete => cases many
  | all =>
      obtain ⟨statement, made⟩ := bare rfl
      refine ⟨.unsupportedHint hint, _, ?_, rfl, rfl, rfl⟩
      rw [compile_eq_of_hint written named, made, refused]
      rfl
  | updateAll =>
      exact refusedFor_of_textFor named valid
        (textFor_of_foreignHint (.inl rfl) written other) rfl rfl
  | deleteAll =>
      exact refusedFor_of_textFor named valid
        (textFor_of_foreignHint (.inr rfl) written other) rfl rfl

theorem Query.not_asksForLock_of_compile
    (named : operation.operation? = some known) (many : known.takesQuery)
    {statement : Statement}
    (made : query.compile operation options = .ok statement) :
    query.asksForLock = false := by
  by_contra locked
  rw [Bool.not_eq_false] at locked
  obtain ⟨hint, written, other, refused⟩ := exists_hint_of_asksForLock locked
  obtain ⟨requested, _, _, done, _⟩ := run_of_compile named made
  have bulk : ¬ (known = .updateAll ∨ known = .deleteAll) := by
    intro bulk
    rw [textFor_of_foreignHint bulk written other] at done
    cases done
  cases known with
  | insert | update | delete => cases many
  | updateAll | deleteAll => simp at bulk
  | all =>
      rw [compile_eq_of_hint written named] at made
      obtain ⟨_, _, made⟩ := bind_eq_ok_iff.mp made
      rw [refused] at made
      cases made

theorem Query.compile_without_assignments
    (reading : operation.operation? = some .all) :
    query.compile operation options =
      { query with assignments := [] }.compile operation options := by
  unfold compile
  rw [reading]
  rfl

/-- A statement is made from all clauses that are set, and without it the
report names a clause that the operation does not carry.  Only the assignments
of a query that reads are let be. -/
theorem Query.clauses_carried (named : operation.operation? = some known)
    (many : known.takesQuery) :
    (∀ statement, query.compile operation options = .ok statement →
      (∃ final, Woven (query.clauseTexts known) .empty statement.text final ∧
        statement.params = final.params) ∧
      query.asksForLock = false ∧
      ∀ clause, query.sets clause →
        clause ∈ carriedClauses known ∨ known = .all ∧ clause = .update) ∧
    (∀ cause, Options.guard options = .error cause →
      query.RefusedFor operation options .compilation .options) ∧
    (∀ requested, Options.guard options = .ok requested →
      (query.asksForLock →
        (known = .all → ∃ statement,
          { query with hint := none }.compile operation options =
            .ok statement) →
        query.RefusedFor operation options .locking .lock) ∧
      (query.asksForLock = false →
        ∀ clause, query.sets clause → clause ∉ carriedClauses known →
          ¬ (known = .all ∧ clause = .update) →
          ∃ misplaced, query.sets misplaced ∧
            misplaced ∉ carriedClauses known ∧
            query.RefusedFor operation options .compilation misplaced)) ∧
    (known = .all →
      query.compile operation options =
        { query with assignments := [] }.compile operation options) := by
  refine ⟨fun statement made => ⟨woven_of_compile named made,
      not_asksForLock_of_compile named many made,
      fun clause set => carried_of_compile named many made set⟩,
    fun cause invalid => refusedFor_options named invalid,
    fun requested valid => ⟨refusedFor_lock named valid many, ?_⟩, ?_⟩
  · intro unlocked clause set uncarried otherwise
    rcases carried_or_foreign set many with
      carried | reading | ⟨bulk, foreign⟩
    · exact absurd carried uncarried
    · exact absurd reading otherwise
    · exact misplaced_of_foreign named valid bulk unlocked set foreign
  · rintro rfl
    exact compile_without_assignments named

end Compiled

def renameUser (limit : Option Nat) : Query :=
  { source := ⟨"users", none⟩
    selection := [], grouping := [], ordering := [], hint := none, limit
    assignments := [.set "name" (.param (.text "Ada"))]
    filter := some (.compare .equal (.column "id") (.param (.int 7))) }

theorem Query.clauses_carried_renameUser :
    (∃ final, Woven ((renameUser none).clauseTexts .updateAll) .empty
      "UPDATE users SET name = ? WHERE id = ?" final ∧
        final.params = [.text "Ada", .int 7]) ∧
    ∃ misplaced, (renameUser (some 1)).sets misplaced ∧
      misplaced ∉ carriedClauses .updateAll ∧
      (renameUser (some 1)).RefusedFor (.text "update_all") [] .compilation
        misplaced := by
  have named : (Value.text "update_all").operation? = some .updateAll := by cbv
  have made : (renameUser none).compile (.text "update_all") [] =
      .ok ⟨.updateAll, "UPDATE users SET name = ? WHERE id = ?",
        [.text "Ada", .int 7], []⟩ := by cbv
  obtain ⟨⟨final, woven, params⟩, _⟩ := (clauses_carried named rfl).1 _ made
  have valid : Options.guard [] = .ok none := by cbv
  have refused :=
    (@clauses_carried (renameUser (some 1)) _ _ _ named rfl).2.2.1 none valid
  exact ⟨⟨final, woven, params.symm⟩,
    refused.2 rfl .limit rfl (by decide) (by decide)⟩

def assigningSearch : Query :=
  { source := ⟨"users", none⟩
    selection := [], filter := none, grouping := [], ordering := []
    limit := none, hint := none
    assignments := [.set "name" (.literal (.text "x"))] }

theorem Query.compile_assigningSearch :
    assigningSearch.sets .update ∧
    (assigningSearch.clauseText .update).runWith .empty =
      (.ok "SET name = 'x'", .empty) ∧
    assigningSearch.compile (.text "all") [] =
      .ok ⟨.all, "SELECT * FROM users", [], []⟩ ∧
    ¬ "SET name = 'x'".toList <:+: "SELECT * FROM users".toList :=
  ⟨rfl, by cbv, by cbv, by decide⟩

end StructuredCql
