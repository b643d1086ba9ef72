import Mathlib
import StructuredCql.Proofs.Layout.Job
import StructuredCql.Proofs.Lexemes.Expr
import StructuredCql.Proofs.Words

/-!
# Lexemes of statements

A statement whose expressions are free of fragments is scanned into code and
literals such that the literals are exactly the texts among its constants, and
the code is one statement without comments and with a question mark for each
bound value.
-/

namespace StructuredCql

open StructuredCql.Text
open Piece

/-! ## The hint -/

theorem mem_singleSpaced {word : List Char} {texts : List (List Char)}
    (member : word ∈ texts) : word ⊆ singleSpaced texts := by
  induction texts using singleSpaced.induct with
  | case1 => cases member
  | case2 only => simp [List.mem_singleton.mp member, singleSpaced]
  | case3 first next rest ih =>
      rw [singleSpaced]
      rcases List.mem_cons.mp member with rfl | member
      · exact List.subset_append_left _ _
      · refine List.Subset.trans (ih member) ?_
        exact List.subset_append_of_subset_right first
          (List.subset_cons_self ' ' _)

theorem QuietText.of_hintClause {hint text : String}
    (written : hintClause hint = .ok text) : QuietText text.toList := by
  unfold hintClause at written
  split at written
  · next accepted =>
    cases written
    simp only [isFilteringHint, decide_eq_true_eq] at accepted
    apply QuietText.of_characters
    · intro empty
      rw [empty] at accepted
      revert accepted
      decide
    · intro character member listed
      have excluded := List.all_eq_true.mp (show
        ['\'', '"', ';', '/', '?', '-'].all (fun mark =>
          !isBlank mark && capitals mark = [mark] &&
            mark ∉ singleSpaced filteringHint) from rfl) character listed
      simp only [Bool.and_eq_true, Bool.not_eq_true', decide_eq_true_eq]
        at excluded
      obtain ⟨⟨notBlank, itself⟩, notIn⟩ := excluded
      rcases isBlank_or_mem_words member with blank | ⟨word, isWord, inWord⟩
      · rw [notBlank] at blank
        cases blank
      · refine notIn ?_
        rw [← accepted]
        exact List.mem_flatMap.mpr
          ⟨character, mem_singleSpaced isWord inWord, by simp [itself]⟩
  · cases written

/-! ## Clauses -/

def Assignment.operand : Assignment → Expr
  | .set _ value => value
  | .increment _ amount => amount

private theorem comma : QuietText ", ".toList := .of_isCalm rfl

namespace Piece.Spells

theorem items {keyword : String} (quiet : QuietText keyword.toList)
    {items : List Expr} (free : ∀ item ∈ items, item.FragmentFree) :
    Spells (.plain keyword :: separated ", " (items.map Expr.layout))
      (items.flatMap Expr.constants) :=
  .plain_cons quiet <| SpellAll.separated
    (.map fun item member => Expr.spells_layout (free item member)) comma

theorem select {items : List Expr}
    (free : ∀ item ∈ items, item.FragmentFree) :
    Spells (selectLayout items) (items.flatMap Expr.constants) := by
  unfold selectLayout
  split
  · exact .plain_cons (.of_isCalm rfl) .nil
  · exact .items (.of_isCalm rfl) free

theorem condition {filter : Expr} (free : filter.FragmentFree) :
    Spells (whereLayout filter) filter.constants :=
  .plain_cons (.of_isCalm rfl) (Expr.spells_layout free)

theorem orderBy {items : List OrderItem}
    (free : ∀ item ∈ items, item.operand.FragmentFree) :
    Spells (orderByLayout items)
      (items.flatMap fun item => item.operand.constants) := by
  refine .plain_cons (.of_isCalm rfl) ?_
  refine SpellAll.separated (.map fun item member => ?_) comma
  have operand := Expr.spells_layout (free item member)
  unfold OrderItem.layout
  cases item.direction with
  | ascending => exact operand
  | descending =>
      simpa using operand.append_plain_cons (.of_isCalm rfl) .nil

theorem limit (count : Nat) : Spells (limitLayout count) [] := by
  unfold limitLayout
  split
  · refine .plain_cons ?_ .nil
    rw [String.toList_append, Nat.toString_eq_repr]
    exact (QuietText.of_isCalm rfl).append
      (.of_bareWord (WordRun.nat_repr count).bareWord)
  · exact .flaw _ _

theorem hint (hint : String) : Spells (hintLayout hint) [] :=
  .ofText_cons (fun _ => .of_hintClause) .nil

theorem assignment {assignment : Assignment}
    (free : assignment.operand.FragmentFree) :
    Spells assignment.layout assignment.operand.constants := by
  have operand := Expr.spells_layout free
  cases assignment with
  | set column value =>
      exact .ofText_cons (fun _ => .of_columnName) <|
        .plain_cons (.of_isCalm rfl) operand
  | increment column amount =>
      exact .ofText_cons (fun _ => .of_columnName) <|
        .plain_cons (.of_isCalm rfl) <|
        .ofText_cons (fun _ => .of_columnName) <|
        .plain_cons (.of_isCalm rfl) operand

theorem ofCheck_append {outcome : Except CompileError α} {rest : List Piece}
    {values : List Value} (right : Spells rest values) :
    Spells (ofCheck outcome ++ rest) values := by
  cases outcome with
  | ok _ => exact right
  | error cause => exact right.flaw_cons

theorem append_ofGuard {pieces : List Piece} {values : List Value}
    (left : Spells pieces values)
    (guard : Except CompileError (Option Guard)) :
    Spells (pieces ++ ofGuard guard) values := by
  rcases guard with cause | _ | guard
  · simpa [ofGuard] using left.append (.flaw cause []) (by simp [isConstant])
  · simpa [ofGuard] using left
  · have clause : QuietText (" " ++ guard.clause).toList := by
      cases guard <;> exact .of_isCalm rfl
    simpa [ofGuard] using left.append_plain_cons clause .nil

end Piece.Spells

/-! ## Queries -/

namespace Query

/-- The expressions that a statement is written from, in its order. -/
def written (query : Query) : Operation → List Expr
  | .all =>
      query.selection ++ query.filter.toList ++ query.grouping ++
        query.ordering.map OrderItem.operand
  | .updateAll =>
      query.assignments.map Assignment.operand ++ query.filter.toList
  | .deleteAll => query.filter.toList
  | _ => []

theorem spellAll_list {layout : List α → List Piece}
    {values : α → List Value} {items : List α}
    (all : Spells (layout items) (items.flatMap values)) :
    SpellAll (listLayout layout items) (items.flatMap values) := by
  cases items with
  | nil => exact .nil
  | cons item rest =>
      rw [← List.append_nil ((item :: rest).flatMap values)]
      exact .cons all .nil

theorem spells_readingLayout {query : Query}
    (free : ∀ operand ∈ query.written .all, operand.FragmentFree) :
    Spells query.readingLayout
      ((query.written .all).flatMap Expr.constants) := by
  simp only [written, List.mem_append, List.mem_map, Option.mem_toList] at free
  have select : Spells (selectLayout query.selection) _ :=
    .select fun item member => free item (by simp [member])
  have table : Spells [.plain "FROM ", ofText query.source.tableName] [] :=
    .plain_cons (.of_isCalm rfl) (.ofText_cons (fun _ => .of_tableName) .nil)
  have filter : SpellAll (query.filter.toList.map whereLayout) _ :=
    .map fun filter member => .condition
      (free filter (by simp [Option.mem_toList.mp member]))
  have grouping : SpellAll (listLayout groupByLayout query.grouping) _ :=
    spellAll_list (.items (.of_isCalm rfl)
      fun item member => free item (by simp [member]))
  have ordering : SpellAll (listLayout orderByLayout query.ordering) _ :=
    spellAll_list (.orderBy fun item member =>
      free item.operand (.inr ⟨item, member, rfl⟩))
  have limit : SpellAll (query.limit.toList.map limitLayout) [] :=
    .map_nil fun count _ => .limit count
  have hint : SpellAll (query.writtenHint.toList.map hintLayout) [] :=
    .map_nil fun hint _ => .hint hint
  have all := ((((SpellAll.cons select (.cons table .nil)).append
    filter).append grouping).append ordering).append limit |>.append hint
  have spells := all.separated (.of_isCalm rfl : QuietText " ".toList)
  simpa [readingLayout, written, List.flatMap_map, Option.toList_map] using
    spells

theorem spells_updateAllLayout {query : Query}
    (free : ∀ operand ∈ query.written .updateAll, operand.FragmentFree)
    (requested : Option Guard) :
    Spells (query.updateAllLayout requested)
      ((query.written .updateAll).flatMap Expr.constants) := by
  simp only [written, List.mem_append, List.mem_map, Option.mem_toList] at free
  have assigned {rest : List Piece} {values : List Value}
      (right : Spells rest values) :
      Spells ((if query.assignments.isEmpty then [.flaw .noAssignments]
        else []) ++ rest) values := by
    cases query.assignments.isEmpty with
    | true => exact right.flaw_cons
    | false => exact right
  unfold updateAllLayout
  rw [List.append_assoc]
  refine .ofCheck_append (assigned ?_)
  cases found : query.filter with
  | none => exact .flaw _ _
  | some filter =>
      have sets := SpellAll.separated (.map fun assignment member =>
        .assignment (free assignment.operand
          (.inl ⟨assignment, member, rfl⟩))) comma
      have condition := Expr.spells_layout (free filter (.inr found))
      have both := sets.append_plain_cons
        (.of_isCalm rfl : QuietText " WHERE ".toList) condition
      refine .plain_cons (.of_isCalm rfl) ?_
      refine .ofText_cons (fun _ => .of_tableName) ?_
      refine .plain_cons (.of_isCalm rfl) ?_
      simpa [written, found, List.flatMap_map] using both.append_ofGuard _

theorem spells_deleteAllLayout {query : Query}
    (free : ∀ operand ∈ query.written .deleteAll, operand.FragmentFree)
    (requested : Option Guard) :
    Spells (query.deleteAllLayout requested)
      ((query.written .deleteAll).flatMap Expr.constants) := by
  simp only [written, Option.mem_toList] at free
  unfold deleteAllLayout
  refine .ofCheck_append ?_
  cases found : query.filter with
  | none =>
      refine .plain_cons (.of_isCalm rfl) ?_
      refine .ofText_cons (fun _ => .of_tableName) ?_
      simp only [written, found, Option.toList_none, List.flatMap_nil]
      split
      · exact .nil
      · exact .flaw _ _
      · exact .flaw _ _
  | some filter =>
      have condition := Expr.spells_layout (free filter found)
      refine .plain_cons (.of_isCalm rfl) ?_
      refine .ofText_cons (fun _ => .of_tableName) ?_
      rw [List.append_assoc]
      refine .ofCheck_append ?_
      simpa [written, found] using (condition.plain_cons
        (.of_isCalm rfl : QuietText " WHERE ".toList)).append_ofGuard _

theorem spells_layoutFor {query : Query} {operation : Operation}
    (free : ∀ operand ∈ query.written operation, operand.FragmentFree)
    (requested : Option Guard) :
    Spells (query.layoutFor requested operation)
      ((query.written operation).flatMap Expr.constants) := by
  cases operation with
  | all => exact spells_readingLayout free
  | updateAll => exact spells_updateAllLayout free requested
  | deleteAll => exact spells_deleteAllLayout free requested
  | insert | update | delete => exact .flaw _ _

end Query

/-! ## Rows -/

theorem QuietText.of_targetTable {keyspace table : Value} {name : String}
    (target : targetTable keyspace table = .ok name) :
    QuietText name.toList := by
  obtain ⟨source, _, written⟩ := bind_eq_ok_iff.mp target
  exact .of_tableName (orRefuse_eq_ok.mp written)

namespace Piece.Spells

private theorem between {before table after : String}
    (opening : QuietText before.toList) (name : QuietText table.toList)
    (closing : QuietText after.toList) :
    QuietText (before ++ table ++ after).toList := by
  rw [String.toList_append, String.toList_append]
  exact (opening.append name).append closing

theorem equation (column : String × Value) :
    Spells (equationLayout column) [] :=
  .ofText_cons (fun _ => .of_columnName) <|
    .plain_cons (.of_isCalm rfl) (.mark column.2)

theorem equations (columns : List (String × Value)) {separator : String}
    (quiet : QuietText separator.toList) :
    Spells (separated separator (columns.map equationLayout)) [] :=
  SpellAll.separated (.map_nil fun column _ => equation column) quiet

theorem inserted (keys : List (String × KeyKind)) (column : String)
    (value : Value) : Spells (insertedLayout keys column value) [] := by
  unfold insertedLayout
  split
  · refine .plain_cons ?_ .nil
    generalize (keys.lookup column).getD .binaryId = kind
    cases kind <;> exact .of_isCalm rfl
  · exact .mark _

theorem insertion {table : String} (name : QuietText table.toList)
    (keys : List (String × KeyKind)) (columns : List (String × Value))
    (guard : Except CompileError (Option Guard)) :
    Spells (insertLayout table keys columns guard) [] := by
  have names : Spells (separated ", " (columns.map fun column =>
      [ofText (columnName column.1)])) [] :=
    SpellAll.separated (.map_nil fun column _ =>
      .ofText_cons (fun _ => .of_columnName) .nil) comma
  have values : Spells (separated ", " (columns.map fun column =>
      insertedLayout keys column.1 column.2)) [] :=
    SpellAll.separated (.map_nil fun column _ =>
      inserted keys column.1 column.2) comma
  refine .append_ofGuard (.plain_cons ?_ ?_) guard
  · exact between (.of_isCalm rfl) name (.of_isCalm rfl)
  · refine names.append_plain_cons (.of_isCalm rfl) ?_
    exact values.append_plain_cons (.of_isCalm rfl) .nil

theorem change {table : String} (name : QuietText table.toList)
    (columns filters : List (String × Value))
    (guard : Except CompileError (Option Guard)) :
    Spells (updateLayout table columns filters guard) [] := by
  refine .append_ofGuard (.plain_cons ?_ ?_) guard
  · exact between (.of_isCalm rfl) name (.of_isCalm rfl)
  · exact (equations columns comma).append_plain_cons (.of_isCalm rfl)
      (equations filters (.of_isCalm rfl))

theorem deletion {table : String} (name : QuietText table.toList)
    (filters : List (String × Value))
    (guard : Except CompileError (Option Guard)) :
    Spells (deleteLayout table filters guard) [] := by
  refine .append_ofGuard (.plain_cons ?_ ?_) guard
  · exact between (.of_isCalm rfl) name (.of_isCalm rfl)
  · exact equations filters (.of_isCalm rfl)

end Piece.Spells

/-! ## Statements -/

namespace Job

def written : Job → List Expr
  | .query asked operation _ =>
      match operation.operation? with
      | some known => asked.written known
      | none => []
  | _ => []

theorem spells_of_laidOut {job : Job} {pieces : List Piece}
    (free : ∀ operand ∈ job.written, operand.FragmentFree)
    (laidOut : job.LaidOut pieces) :
    Spells pieces (job.written.flatMap Expr.constants) := by
  cases laidOut with
  | query known _ =>
      rw [written, known] at free ⊢
      exact Query.spells_layoutFor free _
  | insert _ _ _ _ target => exact .insertion (.of_targetTable target) _ _ _
  | update _ _ _ target => exact .change (.of_targetTable target) _ _ _
  | delete _ _ target => exact .deletion (.of_targetTable target) _ _

/-- The literals are the texts among the constants, and outside of them there
is neither the end of a statement nor a quoted name nor the beginning of a
comment, but one question mark for each bound value. -/
theorem scan_of_compile {job : Job} {statement : Statement}
    (free : ∀ operand ∈ job.written, operand.FragmentFree)
    (made : job.compile = .ok statement) :
    ∃ lexemes, Lexeme.scan none statement.text.toList = some lexemes ∧
      Lexeme.literals lexemes =
        (job.written.flatMap Expr.constants).filterMap Value.quotedText? ∧
      (∀ character ∈ [';', '"'], .code character ∉ lexemes) ∧
      (∀ opener ∈ ["--", "//", "/*"],
        ¬ Lexeme.codes opener.toList <:+: lexemes) ∧
      lexemes.count (.code '?') = statement.params.length := by
  obtain ⟨pieces, laidOut, isWritten⟩ := laidOut_of_compile made
  have spells := spells_of_laidOut free laidOut
  have scanned := scan_written spells.toQuiet isWritten.sound
  rw [← isWritten.text_eq] at scanned
  refine ⟨_, scanned, ?_, ?_, ?_, ?_⟩
  · rw [literals_lexemes, spells.constants_eq isWritten.sound]
  · intro character listed member
    have := spells.toQuiet.not_mem_of_code member
    simp_all
  · exact fun opener listed => spells.toQuiet.not_isInfix listed
  · rw [spells.toQuiet.count_code, isWritten.params_eq]

def quotedSearch : Query :=
  { source := ⟨"users", none⟩
    selection := [.column "AND"], grouping := [], ordering := []
    limit := none, hint := some "allow  filtering", assignments := []
    filter := some (.and
      (.compare .equal (.column "IN") (.literal (.text "it's; -- ?")))
      [.membership (.param (.int 7))
        [.literal (.list [.int (-5), .text "\"/*", .date ⟨2024, 2, 29⟩])]]) }

def quotedSearchText : String :=
  "SELECT AND FROM users WHERE IN = 'it''s; -- ?'" ++
    " AND ? IN (-5,'\"/*','2024-02-29') allow  filtering"

theorem scan_of_quotedSearch :
    ∃ lexemes, Lexeme.scan none quotedSearchText.toList = some lexemes ∧
      Lexeme.literals lexemes = ["it's; -- ?", "\"/*", "2024-02-29"] ∧
      (∀ character ∈ [';', '"'], .code character ∉ lexemes) ∧
      (∀ opener ∈ ["--", "//", "/*"],
        ¬ Lexeme.codes opener.toList <:+: lexemes) ∧
      lexemes.count (.code '?') = 1 := by
  have made : (query quotedSearch (.text "all") []).compile =
      .ok ⟨.all, quotedSearchText, [.int 7], []⟩ := by cbv
  have constants : ((query quotedSearch (.text "all") []).written.flatMap
      Expr.constants).filterMap Value.quotedText? =
        ["it's; -- ?", "\"/*", "2024-02-29"] := by
    simp [written, Query.written, quotedSearch, Value.operation?,
      Operation.ofName?, Operation.each, Operation.name, Expr.constants_eq,
      Expr.parts, Expr.ownConstants, Membership.ofValues, Value.items?]
    decide
  have free : ∀ operand ∈ (query quotedSearch (.text "all") []).written,
      operand.FragmentFree := by
    have leaf {operand : Expr} (noFragment : operand.isFragment = false)
        (single : operand.parts = []) : operand.FragmentFree :=
      .intro noFragment (by simp [single])
    intro operand member
    rcases List.mem_cons.mp member with rfl | member
    · exact leaf rfl rfl
    · cases List.mem_singleton.mp member
      refine .intro rfl fun part member => ?_
      rcases List.mem_cons.mp member with rfl | member
      · refine .intro rfl ?_
        simp only [Expr.parts, List.forall_mem_cons]
        exact ⟨leaf rfl rfl, leaf rfl rfl, by simp⟩
      · cases List.mem_singleton.mp member
        refine .intro rfl ?_
        simp only [Expr.parts, Membership.ofValues, Value.items?,
          List.forall_mem_cons]
        exact ⟨leaf rfl rfl, by simp⟩
  rw [← constants]
  exact scan_of_compile free made

end Job

end StructuredCql
