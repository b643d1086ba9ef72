import StructuredCql.Binder
import StructuredCql.Expr.Weight
import StructuredCql.Literal

/-!
# The text of expressions

Expressions are written from the left to the right, and values are bound in
the same order.  The arguments of a fragment are read only here, one by one at
their slots, so an argument that does not read is refused after the ones
before it have been written.
-/

namespace StructuredCql

open StructuredCql.Text

/-! ## Templates

The text of a fragment, read from the left: a backslash in front of a question
mark makes it plain, every other question mark is a slot, and all else stands
for itself.
-/

inductive TemplatePiece where
  | plain (character : Char)
  | slot
deriving DecidableEq, Repr

def templatePieces : List Char → List TemplatePiece
  | [] => []
  | '\\' :: '?' :: rest => .plain '?' :: templatePieces rest
  | '?' :: rest => .slot :: templatePieces rest
  | character :: rest => .plain character :: templatePieces rest

def slotCount (pieces : List TemplatePiece) : Nat :=
  pieces.count .slot

@[simp] theorem slotCount_nil : slotCount [] = 0 := rfl

@[simp] theorem slotCount_plain_cons (character : Char)
    (pieces : List TemplatePiece) :
    slotCount (.plain character :: pieces) = slotCount pieces :=
  List.count_cons_of_ne (by simp)

@[simp] theorem slotCount_slot_cons (pieces : List TemplatePiece) :
    slotCount (.slot :: pieces) = slotCount pieces + 1 :=
  List.count_cons_self

/-! ## Rendering -/

/-- How the values of a membership are written.  A list that is the only value
gives its items one by one. -/
inductive Membership where
  | empty
  | bound (items : List Value)
  | inlined (items : List Value)
  | each

def Membership.ofValues : List Expr → Membership
  | [] => .empty
  | [.param value] =>
      match value.items? with
      | some [] => .empty
      | some items => .bound items
      | none => .each
  | [.literal value] =>
      match value.items? with
      | some [] => .empty
      | some items => .inlined items
      | none => .each
  | _ => .each

namespace Membership

theorem ofValues_literal {value : Value} {items : List Value}
    (found : value.items? = some items) (some : items ≠ []) :
    ofValues [.literal value] = .inlined items := by
  cases items with
  | nil => exact absurd rfl some
  | cons item rest => simp [ofValues, found]

theorem ofValues_of_several (first second : Expr) (rest : List Expr) :
    ofValues (first :: second :: rest) = .each := by
  cases first <;> rfl

theorem ofValues_eq_empty {values : List Expr}
    (empty : ofValues values = .empty) :
    values = [] ∨ ∃ value : Value, value.items? = some [] ∧
      (values = [.param value] ∨ values = [.literal value]) := by
  unfold ofValues at empty
  split at empty
  · exact .inl rfl
  · next value =>
    split at empty
    · next found => exact .inr ⟨value, found, .inl rfl⟩
    · cases empty
    · cases empty
  · next value =>
    split at empty
    · next found => exact .inr ⟨value, found, .inr rfl⟩
    · cases empty
    · cases empty
  · cases empty

theorem ofValues_eq_inlined {values : List Expr} {items : List Value}
    (inlined : ofValues values = .inlined items) :
    ∃ value : Value, value.items? = some items ∧ items ≠ [] ∧
      values = [.literal value] := by
  unfold ofValues at inlined
  split at inlined
  · cases inlined
  · split at inlined <;> cases inlined
  · next value =>
    split at inlined
    · cases inlined
    · next some found =>
      cases inlined
      exact ⟨value, found, some, rfl⟩
    · cases inlined
  · cases inlined

end Membership

namespace Build

def markAll : List Value → Build (List String)
  | [] => pure []
  | value :: rest => do
      let text ← mark value
      pure (text :: (← markAll rest))

def writeConstants : List Value → Build (List String)
  | [] => pure []
  | value :: rest => do
      let constant ← checked value.constant
      pure (constant :: (← writeConstants rest))

end Build

mutual

def Expr.render : Expr → Build String
  | .column name => Build.checked (columnName name)
  | .literal value => Build.checked value.constant
  | .param value => Build.mark value
  | .call function args => do
      let args ← Expr.renderAll args
      pure (function.name ++ "(" ++ joined ", " args ++ ")")
  | .cast operand typeName => do
      let text ← operand.render
      let typeName ← Build.checked (checkedName .identifier typeName)
      pure ("cast(" ++ text ++ " as " ++ typeName ++ ")")
  | .blob operand typeName => do
      let function ← Build.checked (blobFunction typeName)
      let text ← operand.render
      pure (function ++ "(" ++ text ++ ")")
  | .fragment template args =>
      Expr.renderPieces template args.length
        (templatePieces template.toList) args
  | .keywords entries _ => Build.refuse (.keywordFragment entries)
  | .compare comparison left right => do
      let left ← left.render
      let right ← right.render
      pure (left ++ " " ++ comparison.symbol ++ " " ++ right)
  | .and first rest => do
      let first ← first.render
      let rest ← Expr.renderAll rest
      pure (joined " AND " (first :: rest))
  | .or _ _ => Build.refuse (.unsupportedRelation .or)
  | .not _ => Build.refuse (.unsupportedRelation .not)
  | .membership operand values =>
      match Membership.ofValues values with
      | .empty => Build.refuse (.unsupportedRelation .notIn)
      | .bound items => do
          let operand ← operand.render
          let marks ← Build.markAll items
          pure (operand ++ " IN (" ++ joined "," marks ++ ")")
      | .inlined items => do
          let operand ← operand.render
          let constants ← Build.writeConstants items
          pure (operand ++ " IN (" ++ joined "," constants ++ ")")
      | .each => do
          let operand ← operand.render
          let values ← Expr.renderAll values
          pure (operand ++ " IN (" ++ joined "," values ++ ")")
  | .nullCheck _ negated =>
      Build.refuse
        (.unsupportedRelation (if negated then .isNotNull else .isNull))
termination_by operand => (operand.weight, 0)
decreasing_by
  all_goals
    apply Prod.Lex.left
    simp only [Expr.weight]
    omega

def Expr.renderAll : List Expr → Build (List String)
  | [] => pure []
  | operand :: rest => do
      let text ← operand.render
      pure (text :: (← Expr.renderAll rest))
termination_by operands => (Expr.weightAll operands, 0)
decreasing_by
  all_goals
    apply Prod.Lex.left
    simp only [Expr.weightAll]
    omega

/-- The pieces of a template with the arguments in its slots.  The template as
a whole and the number of its arguments are for the refusals. -/
def Expr.renderPieces (template : String) (count : Nat) :
    List TemplatePiece → List Value → Build String
  | [], [] => pure ""
  | [], _ :: _ =>
      Build.refuse (.surplusArguments template
        (slotCount (templatePieces template.toList)) count)
  | .plain character :: pieces, args => do
      let rest ← Expr.renderPieces template count pieces args
      pure (character.toString ++ rest)
  | .slot :: _, [] => Build.refuse (.missingArgument template count)
  | .slot :: pieces, arg :: args => do
      let text ← Value.renderArgument arg
      let rest ← Expr.renderPieces template count pieces args
      pure (text ++ rest)
termination_by pieces args => (Value.argumentWeights args, pieces.length + 1)
decreasing_by
  · apply Prod.Lex.right
    simp only [List.length_cons]
    omega
  · simp only [Value.argumentWeights, List.length_cons]
    apply Prod.Lex.right'
    · omega
    · omega
  · simp only [Value.argumentWeights, List.length_cons]
    apply Prod.Lex.right'
    · omega
    · omega

def Value.renderArgument (arg : Value) : Build String :=
  match _ : Expr.ofValue arg with
  | .ok operand => operand.render
  | .error issues => Build.refuse (.unreadableArgument arg issues)
termination_by (arg.argumentWeight, 1)
decreasing_by
  rename_i reads
  rcases Nat.lt_or_eq_of_le (Expr.weight_le_of_argument reads) with less | same
  · exact Prod.Lex.left _ _ less
  · rw [same]
    exact Prod.Lex.right _ (by omega)

end

end StructuredCql
