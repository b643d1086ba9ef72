import Mathlib
import StructuredCql.Proofs.Layout.Query
import StructuredCql.Proofs.Outcomes
import StructuredCql.Statement.Row

/-!
# Statements that change or delete rows

A statement that changes or deletes many rows is confined to the rows that the
filter of its query admits.  The main statement is that the whole filter
stands in the text unless a table is emptied on request, that a table is
emptied for a query without any clause only, and that rows are never changed
or deleted without a filter.
-/

namespace StructuredCql

open StructuredCql.Text

namespace Query

def mutationHead (query : Query) : Operation → Build String
  | .updateAll => do
      let table ← Build.checked query.source.tableName
      let assignments ← assignmentList query.assignments
      pure ("UPDATE " ++ table ++ " SET " ++ assignments)
  | _ => do
      let table ← Build.checked query.source.tableName
      pure ("DELETE FROM " ++ table)

end Query

/-- The text of the statement is the head, the whole filter and the guard, if
one has been asked for; nothing else is bound. -/
def Statement.Confined (statement : Statement) (head : Build String)
    (filter : Expr) (requested : Option Guard) : Prop :=
  ∃ headText condition middle final,
    head.runWith .empty = (.ok headText, middle) ∧
    filter.render.runWith middle = (.ok condition, final) ∧
    statement.params = final.params ∧
    statement.text = headText ++ " WHERE " ++ condition ++
      if requested = some .exists then " IF EXISTS" else ""

namespace Query

variable {query : Query} {requested : Option Guard} {text : String}
  {final : Binder}

private theorem guarded_of_guardFor {operation : Operation}
    {guard : Option Guard}
    (bulk : operation = .updateAll ∨ operation = .deleteAll)
    (found : guardFor requested operation = .ok guard) :
    guarded text guard =
      text ++ if requested = some .exists then " IF EXISTS" else "" := by
  rcases bulk with rfl | rfl <;> rcases requested with _ | (_ | _) <;>
    cases found <;>
    simp [guarded, Guard.clause, String.append_assoc, String.reduceAppend]

private theorem requested_eq_none_of_guardFor
    (found : guardFor requested .deleteAll = .ok none) : requested = none := by
  rcases requested with _ | (_ | _)
  · rfl
  · cases found
  · cases found

theorem sets_eq_false_of_checkClauses {operation : Operation}
    (checked : query.checkClauses operation = .ok ()) :
    ∀ clause ∈ foreignClauses operation, query.sets clause = false := by
  have none_found : (foreignClauses operation).find? query.sets = none := by
    unfold checkClauses at checked
    cases found : (foreignClauses operation).find? query.sets with
    | none => rfl
    | some clause =>
        rw [found] at checked
        cases written : query.writtenHint with
        | none =>
            rw [written] at checked
            cases checked
        | some hint =>
            rw [written] at checked
            obtain ⟨_, _, refused⟩ := bind_eq_ok_iff.mp checked
            cases refused
  intro clause listed
  simpa using List.find?_eq_none.mp none_found clause listed

theorem updateAll_of_run
    (done : (query.updateAllText requested).runWith .empty =
      (.ok text, final)) :
    ∃ filter, query.filter = some filter ∧
      ∀ options, Statement.Confined
        ⟨.updateAll, text, final.params, options⟩
        (query.mutationHead .updateAll) filter requested := by
  unfold updateAllText at done
  obtain ⟨_, _, done⟩ := Build.runWith_checked_bind_eq_ok.mp done
  dsimp only at done
  split at done
  · cases done
  · cases found : query.filter with
    | none =>
        rw [found] at done
        cases done
    | some filter =>
        rw [found] at done
        obtain ⟨table, named, done⟩ :=
          Build.runWith_checked_bind_eq_ok.mp done
        obtain ⟨sets, middle, assigned, done⟩ :=
          Build.runWith_bind_eq_ok.mp done
        obtain ⟨condition, last, rendered, done⟩ :=
          Build.runWith_bind_eq_ok.mp done
        obtain ⟨guard, applies, done⟩ :=
          Build.runWith_checked_bind_eq_ok.mp done
        have head : (query.mutationHead .updateAll).runWith .empty =
            (.ok ("UPDATE " ++ table ++ " SET " ++ sets), middle) := by
          simp only [mutationHead, Build.runWith_bind, Build.runWith_checked,
            Build.runWith_pure, named, assigned]
        cases done
        exact ⟨filter, rfl, fun options => ⟨_, condition, middle, _, head,
          rendered, rfl, guarded_of_guardFor (.inl rfl) applies⟩⟩

theorem deleteAll_of_run
    (done : (query.deleteAllText requested).runWith .empty =
      (.ok text, final)) :
    (query.filter = none ∧ requested = none ∧ final = .empty ∧
      (∀ clause, query.sets clause = false) ∧
      ∃ table, query.source.tableName = .ok table ∧
        text = "TRUNCATE " ++ table) ∨
    ∃ filter, query.filter = some filter ∧
      ∀ options, Statement.Confined
        ⟨.deleteAll, text, final.params, options⟩
        (query.mutationHead .deleteAll) filter requested := by
  unfold deleteAllText at done
  obtain ⟨_, checked, done⟩ := Build.runWith_checked_bind_eq_ok.mp done
  obtain ⟨table, named, done⟩ := Build.runWith_checked_bind_eq_ok.mp done
  obtain ⟨guard, applies, done⟩ := Build.runWith_checked_bind_eq_ok.mp done
  have head : (query.mutationHead .deleteAll).runWith .empty =
      (.ok ("DELETE FROM " ++ table), .empty) := by
    simp only [mutationHead, Build.runWith_bind, Build.runWith_checked,
      Build.runWith_pure, named]
  cases filtered : query.filter with
  | none =>
      rw [filtered] at done
      cases guard with
      | some guard => cases done
      | none =>
        cases done
        refine .inl ⟨rfl, ?_, rfl, ?_, table, named, rfl⟩
        · exact requested_eq_none_of_guardFor applies
        · intro clause
          have foreign := sets_eq_false_of_checkClauses checked
          cases clause with
          | «where» => simp [sets, filtered]
          | insert | options => rfl
          | _ => exact foreign _ (by simp [foreignClauses])
  | some filter =>
      rw [filtered] at done
      obtain ⟨condition, last, rendered, done⟩ :=
        Build.runWith_bind_eq_ok.mp done
      cases done
      exact .inr ⟨filter, rfl, fun options => ⟨_, condition, .empty, _, head,
        rendered, rfl, guarded_of_guardFor (.inr rfl) applies⟩⟩

private theorem mutationHead_eq_append {operation : Operation}
    {binder middle : Binder} {head : String}
    (made : (query.mutationHead operation).runWith binder =
      (.ok head, middle)) :
    ∃ rest, head = "UPDATE " ++ rest ∨ head = "DELETE FROM " ++ rest := by
  unfold mutationHead at made
  split at made
  · obtain ⟨table, _, made⟩ := Build.runWith_checked_bind_eq_ok.mp made
    obtain ⟨sets, _, _, made⟩ := Build.runWith_bind_eq_ok.mp made
    cases made
    exact ⟨table ++ " SET " ++ sets, .inl (by simp only [String.append_assoc])⟩
  · obtain ⟨table, _, made⟩ := Build.runWith_checked_bind_eq_ok.mp made
    cases made
    exact ⟨table, .inr rfl⟩

private theorem selectText_eq_append {binder : Binder}
    (made : query.selectText.runWith binder = (.ok text, final)) :
    ∃ rest, text = "SELECT " ++ rest := by
  rw [selectText_eq] at made
  obtain ⟨_, rfl, _⟩ := Piece.runWith_writeAll_eq_ok made
  unfold readingLayout selectLayout
  split
  · exact ⟨"*" ++ _, by
      simp only [List.cons_append, Piece.separated, Piece.written,
        Piece.textWith, ← String.append_assoc]
      rfl⟩
  · exact ⟨_, rfl⟩

private theorem append_ne_truncate {keyword : String} {first : Char}
    (begins : keyword.toList.head? = some first) (other : first ≠ 'T')
    (rest further : String) : keyword ++ rest ≠ "TRUNCATE" ++ further := by
  intro same
  have heads := congrArg (fun text => text.toList.head?) same
  simp [String.toList_append, List.head?_append, begins] at heads
  exact other heads

end Query

private theorem Statement.Confined.ne_truncate {query : Query}
    {operation : Operation} {statement : Statement} {filter : Expr}
    {requested : Option Guard}
    (confined : statement.Confined (query.mutationHead operation) filter
      requested) (rest : String) :
    statement.text ≠ "TRUNCATE" ++ rest := by
  obtain ⟨head, condition, _, _, made, _, _, text_eq⟩ := confined
  obtain ⟨table, rfl | rfl⟩ := Query.mutationHead_eq_append made
  · rw [text_eq, String.append_assoc, String.append_assoc, String.append_assoc]
    exact Query.append_ne_truncate rfl (by decide) _ _
  · rw [text_eq, String.append_assoc, String.append_assoc, String.append_assoc]
    exact Query.append_ne_truncate rfl (by decide) _ _

theorem Statement.ofBuild_eq_ok {operation : Operation} {options : Options}
    {build : Build String} {statement : Statement} :
    ofBuild operation options build = .ok statement ↔
      ∃ text final, build.runWith .empty = (.ok text, final) ∧
        statement = ⟨operation, text, final.params, options⟩ := by
  unfold ofBuild
  rcases build.runWith .empty with ⟨cause | text, final⟩
  · simp
  · constructor
    · rintro ⟨⟩
      exact ⟨text, final, rfl, rfl⟩
    · rintro ⟨_, _, ⟨⟩, rfl⟩
      rfl

section Compiled

variable {query : Query} {operation : Value} {known : Operation}
  {options : Options} {requested : Option Guard}

theorem Query.compile_eq_ofBuild (named : operation.operation? = some known)
    (valid : Options.guard options = .ok requested) :
    query.compile operation options =
      Statement.ofBuild known options (query.textFor requested known) := by
  unfold compile
  rw [named]
  exact congrArg (· >>= _) valid

private theorem Query.cases_of_textFor (options : Options) {text : String}
    {final : Binder}
    (done : (query.textFor requested known).runWith .empty =
      (.ok text, final)) :
    (known = .all ∧ ∃ rest, text = "SELECT " ++ rest) ∨
    (known = .deleteAll ∧ query.filter = none ∧ requested = none ∧
      final = .empty ∧ (∀ clause, query.sets clause = false) ∧
      ∃ table, query.source.tableName = .ok table ∧
        text = "TRUNCATE " ++ table) ∨
    ((known = .updateAll ∨ known = .deleteAll) ∧
      ∃ filter, query.filter = some filter ∧
        Statement.Confined ⟨known, text, final.params, options⟩
          (query.mutationHead known) filter requested) := by
  cases known with
  | all => exact .inl ⟨rfl, selectText_eq_append done⟩
  | updateAll =>
      obtain ⟨filter, filtered, confined⟩ := updateAll_of_run done
      exact .inr (.inr ⟨.inl rfl, filter, filtered, confined options⟩)
  | deleteAll =>
      rcases deleteAll_of_run done with
        emptied | ⟨filter, filtered, confined⟩
      · exact .inr (.inl ⟨rfl, emptied⟩)
      · exact .inr (.inr ⟨.inr rfl, filter, filtered, confined options⟩)
  | insert | update | delete => cases done

theorem Query.textFor_of_checkClauses {cause : CompileError}
    (bulk : known = .updateAll ∨ known = .deleteAll)
    (refused : query.checkClauses known = .error cause) :
    (query.textFor requested known).runWith .empty =
      (.error cause, .empty) := by
  rcases bulk with rfl | rfl
  · rw [textFor, updateAllText, refused]
    rfl
  · rw [textFor, deleteAllText, refused]
    rfl

theorem Query.textFor_of_foreignHint {hint : String}
    (bulk : known = .updateAll ∨ known = .deleteAll)
    (written : query.writtenHint = some hint)
    (foreign : isFilteringHint hint.toList = false) :
    (query.textFor requested known).runWith .empty =
      (.error (.unsupportedHint hint), .empty) := by
  apply textFor_of_checkClauses bulk
  unfold checkClauses hintClause
  rw [written]
  simp [foreign, bind, Except.bind]

private theorem Query.confined_of_textFor {text : String} {final : Binder}
    (done : (query.textFor requested known).runWith .empty =
      (.ok text, final)) :
    ((∃ rest, text = "TRUNCATE" ++ rest) ↔
      known = .deleteAll ∧ query.filter = none) ∧
    (known = .deleteAll → query.filter = none →
      requested = none ∧ final.params = [] ∧
        ∀ clause, query.sets clause = false) ∧
    (known = .updateAll ∨ known = .deleteAll →
      ∀ filter, query.filter = some filter →
        Statement.Confined ⟨known, text, final.params, options⟩
          (query.mutationHead known) filter requested) := by
  rcases cases_of_textFor options done with
    ⟨rfl, rest, rfl⟩ |
    ⟨rfl, unfiltered, unguarded, rfl, unset, table, _, rfl⟩ |
    ⟨bulk, filter, filtered, confined⟩
  · refine ⟨⟨?_, by simp⟩, by simp, by simp⟩
    rintro ⟨further, same⟩
    exact absurd same (append_ne_truncate rfl (by decide) rest further)
  · refine ⟨iff_of_true ⟨" " ++ table, ?_⟩ ⟨rfl, unfiltered⟩,
      fun _ _ => ⟨unguarded, rfl, unset⟩, ?_⟩
    · rw [← String.append_assoc]
      rfl
    · intro _ filter filtered
      rw [unfiltered] at filtered
      cases filtered
  · refine ⟨⟨?_, ?_⟩, ?_, ?_⟩
    · rintro ⟨rest, same⟩
      exact absurd same (confined.ne_truncate rest)
    · rintro ⟨_, unfiltered⟩
      rw [filtered] at unfiltered
      cases unfiltered
    · intro _ unfiltered
      rw [filtered] at unfiltered
      cases unfiltered
    · intro _ other alsoFiltered
      rw [filtered] at alsoFiltered
      cases alsoFiltered
      exact confined

private theorem Query.updateAll_of_unfiltered (unfiltered : query.filter = none)
    (text : String) (final : Binder) :
    (query.textFor requested .updateAll).runWith .empty ≠
      (.ok text, final) := by
  intro done
  obtain ⟨filter, filtered, _⟩ := updateAll_of_run done
  rw [unfiltered] at filtered
  cases filtered

private theorem updateRow_of_unfiltered
    (valid : Options.guard options = .ok requested) (keyspace table : Value)
    (fields : Row) :
    ∃ failure, updateRow keyspace table fields [] options = .error failure := by
  unfold updateRow
  rw [valid]
  cases fields with
  | nil => exact ⟨_, rfl⟩
  | cons field rest => exact ⟨_, rfl⟩

private theorem deleteRow_of_unfiltered
    (valid : Options.guard options = .ok requested) (keyspace table : Value) :
    ∃ failure, deleteRow keyspace table [] options = .error failure := by
  unfold deleteRow
  rw [valid]
  exact ⟨_, rfl⟩

/-- What a statement for many rows is made from stands in it, and where
something is missing there is no statement. -/
theorem mutations_confined (named : operation.operation? = some known)
    (valid : Options.guard options = .ok requested) :
    (∀ statement, query.compile operation options = .ok statement →
      ((∃ rest, statement.text = "TRUNCATE" ++ rest) ↔
        known = .deleteAll ∧ query.filter = none) ∧
      (known = .deleteAll → query.filter = none →
        requested = none ∧ statement.params = [] ∧
          ∀ clause, query.sets clause = false) ∧
      (known = .updateAll ∨ known = .deleteAll →
        ∀ filter, query.filter = some filter →
          statement.Confined (query.mutationHead known) filter requested)) ∧
    (known = .updateAll → query.filter = none →
      ∃ cause, query.compile operation options = .error cause) ∧
    (∀ keyspace table fields, ∃ failure,
      updateRow keyspace table fields [] options = .error failure) ∧
    (∀ keyspace table, ∃ failure,
      deleteRow keyspace table [] options = .error failure) ∧
    (known = .updateAll ∨ known = .deleteAll → ∀ hint,
      query.writtenHint = some hint → isFilteringHint hint.toList = false →
      query.compile operation options = .error (.unsupportedHint hint)) := by
  rw [Query.compile_eq_ofBuild named valid]
  refine ⟨?_, ?_, updateRow_of_unfiltered valid,
    deleteRow_of_unfiltered valid, ?_⟩
  · intro statement made
    obtain ⟨text, final, done, rfl⟩ := Statement.ofBuild_eq_ok.mp made
    exact Query.confined_of_textFor done
  · rintro rfl unfiltered
    cases made : Statement.ofBuild .updateAll options
        (query.textFor requested .updateAll) with
    | error cause => exact ⟨cause, rfl⟩
    | ok statement =>
        obtain ⟨text, final, done, _⟩ := Statement.ofBuild_eq_ok.mp made
        exact absurd done (Query.updateAll_of_unfiltered unfiltered text final)
  · intro bulk hint written foreign
    unfold Statement.ofBuild
    rw [Query.textFor_of_foreignHint bulk written foreign]

end Compiled

def dailyPurge : Query :=
  { source := ⟨"events", some "app"⟩
    selection := [], grouping := [], ordering := [], limit := none
    hint := some "", assignments := []
    filter := some (.and (.compare .equal (.column "e.day") (.param (.int 7)))
      [.membership (.column "kind") [.param (.list [.int 1, .int 2])]]) }

def dailyPurgeText : String :=
  "DELETE FROM app.events WHERE day = ? AND kind IN (?,?) IF EXISTS"

def ifExists : Options := [(.text "if", .text "exists")]

def dailyPurgeStatement : Statement :=
  ⟨.deleteAll, dailyPurgeText, [.int 7, .int 1, .int 2], ifExists⟩

theorem mutations_confined_dailyPurge :
    dailyPurge.compile (.text "delete_all") ifExists =
      .ok dailyPurgeStatement ∧
    ∃ filter, dailyPurge.filter = some filter ∧
      dailyPurgeStatement.Confined (dailyPurge.mutationHead .deleteAll) filter
        (some .exists) := by
  have valid : Options.guard ifExists = .ok (some .exists) := by cbv
  have made : dailyPurge.compile (.text "delete_all") ifExists =
      .ok dailyPurgeStatement := by cbv
  have named : (Value.text "delete_all").operation? = some .deleteAll := by cbv
  have confined := (mutations_confined named valid).1 _ made
  exact ⟨made, _, rfl, confined.2.2 (.inr rfl) _ rfl⟩

end StructuredCql
