import StructuredCql.Proofs.Constants.Grammar
import StructuredCql.Proofs.Layout.Job
import StructuredCql.Proofs.Names

/-!
# Words that columns and constants share

Columns stand in a statement without quotes, and so do most constants.  The
main statement is that they are told apart by their texts, apart from the words
for truth values, for an infinity and for what is no number.  So a value that
is written into a statement looks like a column only if it is one of these
words.
-/

namespace StructuredCql

open StructuredCql.Text
open Piece

/-! ## Single words -/

/-- The words for what is no number may have digits behind them. -/
inductive IsSharedWord : String → Prop
  | truth (value : Bool) : IsSharedWord (if value then "TRUE" else "FALSE")
  | infinity : IsSharedWord "Infinity"
  | notANumber (signaling : Bool) {digits : String} :
      (∀ digit ∈ digits.toList, digit.isDigit) →
      IsSharedWord ((if signaling then "sNaN" else "NaN") ++ digits)

namespace Nameable

theorem begins {first : Char} {rest : List Char}
    (nameable : Nameable (first :: rest)) : first.isAlpha ∨ first = '_' := by
  rcases nameable with ⟨start, _⟩ | ⟨name, ⟨start, _⟩, same⟩
  · exact start
  · cases same
    exact start

theorem begins_apart {first : Char} {rest : List Char}
    (nameable : Nameable (first :: rest)) :
    first.isDigit = false ∧ first ≠ '-' := by
  rcases nameable.begins with alpha | rfl
  · constructor
    · rw [Bool.eq_false_iff]
      intro digit
      simp [Char.isAlpha, Char.isUpper, Char.isLower, Char.isDigit,
        UInt32.le_iff_toNat_le] at alpha digit
      omega
    · rintro rfl
      cases alpha
  · decide

theorem hyphen_not_mem {text : List Char} (nameable : Nameable text) :
    '-' ∉ text := by
  intro member
  have := nameable.characters '-' member
  revert this
  decide

theorem isSharedWord_of_isConstant {text : List Char}
    (nameable : Nameable text) (isConstant : IsConstant text) :
    IsSharedWord (String.ofList text) := by
  cases isConstant with
  | quoted =>
      rcases nameable.begins with alpha | same
      · cases alpha
      · cases same
  | truth value =>
      rw [String.ofList_toList]
      exact .truth value
  | number isNumber =>
      obtain ⟨negative, isWhole, _, _⟩ := isNumber
      obtain ⟨digit, digits, rfl⟩ :=
        List.exists_cons_of_ne_nil isWhole.nonempty
      have isDigit := isWhole.all digit List.mem_cons_self
      cases negative with
      | true => exact absurd rfl nameable.begins_apart.2
      | false =>
          rw [nameable.begins_apart.1] at isDigit
          cases isDigit
  | notANumber negative =>
      cases negative with
      | true => exact absurd rfl nameable.begins_apart.2
      | false => exact @IsSharedWord.notANumber false "" (by simp)
  | infinity negative =>
      cases negative with
      | true => exact absurd rfl nameable.begins_apart.2
      | false => exact .infinity
  | uuid => exact absurd (by simp) nameable.hyphen_not_mem
  | bytes => cases nameable.begins_apart.1

end Nameable

theorem Decimal.isSharedWord_text {decimal : Decimal}
    (diagnostic : decimal.isDiagnostic)
    (nameable : Nameable decimal.text.toList) : IsSharedWord decimal.text := by
  cases decimal with
  | finite | infinite => cases diagnostic
  | notANumber negative signaling payload =>
      rw [text, String.append_assoc] at nameable ⊢
      cases negative with
      | true =>
          rw [String.toList_append] at nameable
          exact absurd rfl nameable.begins_apart.2
      | false =>
          refine .notANumber signaling fun digit member => ?_
          split at member
          · cases member
          · rw [Nat.toString_eq_repr, Nat.toList_repr] at member
            exact (AreDigits.toDigits payload).all digit member

theorem isSharedWord_of_constant {value : Value} {text : String}
    (nameable : Nameable text.toList) (written : value.constant = .ok text) :
    IsSharedWord text := by
  cases diagnostic : value.isDiagnostic with
  | false =>
      have isConstant :=
        (Value.isConstant_constant_iff written).mpr diagnostic
      simpa using nameable.isSharedWord_of_isConstant isConstant
  | true =>
      cases value with
      | decimal decimal =>
          cases written
          exact decimal.isSharedWord_text diagnostic nameable
      | _ => cases diagnostic

/-! ## Values in statements -/

namespace Piece

def IsFaithful : Piece → Prop
  | .constant value text => value.constant = .ok text
  | .plain _ | .mark _ | .flaw _ => True

def Faithful (pieces : List Piece) : Prop :=
  ∀ piece ∈ pieces, piece.IsFaithful

@[simp] theorem faithful_nil : Faithful [] := by simp [Faithful]

@[simp] theorem faithful_append {first second : List Piece} :
    Faithful (first ++ second) ↔ Faithful first ∧ Faithful second :=
  List.forall_mem_append

@[simp] theorem faithful_plain_cons {text : String} {rest : List Piece} :
    Faithful (.plain text :: rest) ↔ Faithful rest := by
  simp [Faithful, IsFaithful]

@[simp] theorem faithful_mark_cons {value : Value} {rest : List Piece} :
    Faithful (.mark value :: rest) ↔ Faithful rest := by
  simp [Faithful, IsFaithful]

@[simp] theorem faithful_flaw_cons {cause : CompileError} {rest : List Piece} :
    Faithful (.flaw cause :: rest) ↔ Faithful rest := by
  simp [Faithful, IsFaithful]

@[simp] theorem faithful_ofText_cons {outcome : Except CompileError String}
    {rest : List Piece} :
    Faithful (ofText outcome :: rest) ↔ Faithful rest := by
  cases outcome <;> simp [ofText]

@[simp] theorem faithful_ofConstant (value : Value) :
    Faithful [ofConstant value] := by
  unfold ofConstant
  split
  · next written => simpa [Faithful, IsFaithful] using written
  · simp

@[simp] theorem faithful_ofCheck (outcome : Except CompileError α) :
    Faithful (ofCheck outcome) := by
  cases outcome <;> simp [ofCheck]

@[simp] theorem faithful_ofGuard
    (guard : Except CompileError (Option Guard)) :
    Faithful (ofGuard guard) := by
  rcases guard with cause | _ | guard <;> simp [ofGuard]

namespace Faithful

theorem separated {separator : String} {layouts : List (List Piece)}
    (all : ∀ pieces ∈ layouts, Faithful pieces) :
    Faithful (separated separator layouts) := by
  cases layouts with
  | nil => exact faithful_nil
  | cons pieces rest =>
      obtain ⟨first, others⟩ := List.forall_mem_cons.mp all
      rw [separated_cons, faithful_append]
      refine ⟨first, fun piece member => ?_⟩
      obtain ⟨layout, isLayout, member⟩ := List.mem_flatMap.mp member
      exact faithful_plain_cons.mpr (others layout isLayout) piece member

theorem map {layout : α → List Piece} {items : List α} (separator : String)
    (all : ∀ item ∈ items, Faithful (layout item)) :
    Faithful (Piece.separated separator (items.map layout)) :=
  separated (List.forall_mem_map.mpr all)

theorem listed {operand : List Piece} {items : List (List Piece)}
    (left : Faithful operand) (all : ∀ pieces ∈ items, Faithful pieces) :
    Faithful (listed operand items) := by
  simp [Piece.listed, left, separated all]

theorem filled {template : String} {count : Nat}
    {pieces : List TemplatePiece} {args : List (List Piece)}
    (all : ∀ arg ∈ args, Faithful arg) :
    Faithful (filled template count pieces args) := by
  induction pieces generalizing args with
  | nil => cases args <;> simp [Piece.filled]
  | cons piece pieces ih =>
      cases piece with
      | plain character => simpa [Piece.filled] using ih all
      | slot =>
          cases args with
          | nil => simpa [Piece.filled] using ih all
          | cons arg args =>
              obtain ⟨first, others⟩ := List.forall_mem_cons.mp all
              simpa [Piece.filled] using ⟨first, ih others⟩

end Faithful

end Piece

theorem Expr.faithful_layout (operand : Expr) : Faithful operand.layout := by
  induction operand using partInduction with
  | whole operand ih =>
  cases operand with
  | column | literal | param | keywords | or | not | nullCheck =>
      simp [layout]
  | call function args =>
      have args := Faithful.map ", " ih
      simpa [layout, parts] using args
  | cast operand typeName | blob operand typeName =>
      have operand := ih operand List.mem_cons_self
      simp [layout, operand]
  | fragment template args =>
      rw [layout_fragment]
      refine .filled (List.forall_mem_map.mpr fun arg member => ?_)
      unfold Value.argumentLayout
      cases read : Expr.ofValue arg with
      | ok operand => exact ih operand (mem_parts_fragment member read)
      | error issues => simp
  | compare comparison left right =>
      have left := ih left List.mem_cons_self
      have right := ih right (List.mem_cons_of_mem _ List.mem_cons_self)
      simp [layout, left, right]
  | and first rest =>
      have conjuncts := Faithful.map " AND " ih
      simpa [layout, parts] using conjuncts
  | membership operand values =>
      rw [layout]
      cases found : Membership.ofValues values with
      | empty => simp
      | bound items =>
          have operand := ih operand (by simp [parts, found])
          exact .listed operand (by simp)
      | inlined items =>
          have operand := ih operand (by simp [parts, found])
          exact .listed operand (by simp)
      | each =>
          have operand := ih operand (by simp [parts, found])
          refine .listed operand (List.forall_mem_map.mpr ?_)
          exact fun value member => ih value (by simp [parts, found, member])

/-! ## Statements -/

namespace Query

private theorem faithful_list {layout : List α → List Piece}
    (all : ∀ items, Faithful (layout items)) (items : List α) :
    ∀ pieces ∈ listLayout layout items, Faithful pieces := by
  cases items <;> simp [listLayout, all]

theorem faithful_readingLayout (query : Query) :
    Faithful query.readingLayout := by
  have operands (items : List Expr) :
      Faithful (Piece.separated ", " (items.map Expr.layout)) :=
    .map ", " fun item _ => item.faithful_layout
  have select : Faithful (selectLayout query.selection) := by
    unfold selectLayout
    split <;> simp [operands]
  have ordering (items : List OrderItem) : Faithful (orderByLayout items) := by
    refine faithful_plain_cons.mpr (.map ", " fun item _ => ?_)
    have operand := item.operand.faithful_layout
    unfold OrderItem.layout
    cases item.direction <;> simp [operand]
  have limit (count : Nat) : Faithful (limitLayout count) := by
    unfold limitLayout
    split <;> simp
  refine .separated ?_
  simp only [List.forall_mem_append, List.forall_mem_cons]
  refine ⟨⟨⟨⟨⟨⟨select, by simp, by simp⟩, ?_⟩, ?_⟩, ?_⟩, ?_⟩, ?_⟩
  · simp [whereLayout, Expr.faithful_layout]
  · exact faithful_list (by simp [groupByLayout, operands]) _
  · exact faithful_list ordering _
  · simp [limit]
  · simp [hintLayout]

theorem faithful_updateAllLayout (query : Query) (requested : Option Guard) :
    Faithful (query.updateAllLayout requested) := by
  have assignment (assignment : Assignment) : Faithful assignment.layout := by
    cases assignment <;> simp [Assignment.layout, Expr.faithful_layout]
  have sets : Faithful (Piece.separated ", "
      (query.assignments.map Assignment.layout)) :=
    .map ", " fun item _ => assignment item
  unfold updateAllLayout
  cases query.assignments.isEmpty <;> cases query.filter <;>
    simp [sets, Expr.faithful_layout]

theorem faithful_deleteAllLayout (query : Query) (requested : Option Guard) :
    Faithful (query.deleteAllLayout requested) := by
  unfold deleteAllLayout
  cases query.filter with
  | none => rcases guardFor requested .deleteAll with _ | _ | _ <;> simp
  | some filter => simp [Expr.faithful_layout]

end Query

theorem Job.faithful_of_laidOut {job : Job} {pieces : List Piece}
    (laidOut : job.LaidOut pieces) : Faithful pieces := by
  have equations (separator : String) (columns : List (String × Value)) :
      Faithful (Piece.separated separator (columns.map equationLayout)) :=
    .map separator fun column _ => by simp [equationLayout]
  cases laidOut with
  | @query asked _ _ known requested =>
      cases known with
      | all => exact asked.faithful_readingLayout
      | updateAll => exact asked.faithful_updateAllLayout requested
      | deleteAll => exact asked.faithful_deleteAllLayout requested
      | insert | update | delete => simp [Query.layoutFor]
  | insert =>
      have inserted (keys : List (String × KeyKind))
          (column : String × Value) :
          Faithful (insertedLayout keys column.1 column.2) := by
        unfold insertedLayout
        split <;> simp
      simp only [insertLayout, insertBody, faithful_append, faithful_plain_cons,
        List.cons_append]
      exact ⟨⟨.map ", " fun _ _ => by simp, .map ", " fun _ _ => inserted _ _,
        by simp⟩, by simp⟩
  | update => simp [updateLayout, updateBody, conditionLayout, equations]
  | delete => simp [deleteLayout, deleteBody, conditionLayout, equations]

/-- A text that could be a column is the constant for a value only if it is a
shared word, and such words are both.  So is every value that stands in a
statement, also inside the arguments of a fragment. -/
theorem shared_words :
    (∀ name value text, columnName name = .ok text →
      Value.constant value = .ok text → IsSharedWord text) ∧
    (∀ word ∈ ["TRUE", "FALSE", "Infinity", "NaN"],
      columnName word = .ok word ∧
        ∃ value : Value, value.constant = .ok word) ∧
    ∀ job statement, Job.compile job = .ok statement →
      ∃ pieces, job.LaidOut pieces ∧ statement.IsWritten pieces ∧
        ∀ value text, .constant value text ∈ pieces →
          (∃ name, columnName name = .ok text) → IsSharedWord text := by
  have shared (name : String) (value : Value) (text : String)
      (column : columnName name = .ok text)
      (written : value.constant = .ok text) : IsSharedWord text :=
    isSharedWord_of_constant
      (isIdentifier_iff.mp (isIdentifier_of_columnName column)) written
  refine ⟨shared, ?_, ?_⟩
  · simp only [List.forall_mem_cons]
    exact ⟨⟨by cbv, .bool true, by cbv⟩, ⟨by cbv, .bool false, by cbv⟩,
      ⟨by cbv, .float (.infinite false), by cbv⟩,
      ⟨by cbv, .float .notANumber, by cbv⟩, by simp⟩
  · intro job statement made
    obtain ⟨pieces, laidOut, isWritten⟩ := Job.laidOut_of_compile made
    refine ⟨pieces, laidOut, isWritten, ?_⟩
    rintro value text member ⟨name, column⟩
    have faithful := Job.faithful_of_laidOut laidOut _ member
    exact shared name value text column faithful

def doubtfulSearch : Query :=
  { source := ⟨"readings", none⟩
    selection := [.column "r.sNaN7",
      .literal (.decimal (.notANumber false true 7))]
    filter := none, grouping := [], ordering := [], limit := none
    hint := none, assignments := [] }

theorem shared_words_doubtfulSearch :
    IsSharedWord "sNaN7" ∧
      ∃ pieces, "SELECT sNaN7, sNaN7 FROM readings" = written "?" pieces ∧
        ∀ value text, .constant value text ∈ pieces →
          (∃ name, columnName name = .ok text) → IsSharedWord text := by
  have column : columnName "r.sNaN7" = .ok "sNaN7" := by cbv
  have constant : (Value.decimal (.notANumber false true 7)).constant =
      .ok "sNaN7" := by cbv
  have made : (Job.query doubtfulSearch (.text "all") []).compile =
      .ok ⟨.all, "SELECT sNaN7, sNaN7 FROM readings", [], []⟩ := by cbv
  obtain ⟨pieces, -, isWritten, apart⟩ := shared_words.2.2 _ _ made
  exact ⟨shared_words.1 _ _ _ column constant, pieces, isWritten.text_eq,
    apart⟩

end StructuredCql
