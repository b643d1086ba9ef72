import Mathlib.Data.List.Basic
import StructuredCql.Proofs.Layout
import StructuredCql.Session

/-!
# What expressions bind

The leaves of an expression are the values that it binds, from the left to the
right.  The binder only grows: a whole expression adds its leaves behind what
is bound already, a refused one adds those before its first flaw, and neither
depends on what was bound before.  So expressions that share a binder add what
each of them adds to an empty one, whichever of them are refused.
-/

namespace StructuredCql

/-- The arguments of a fragment give leaves as far as they have slots and
read; what is refused as a whole gives none. -/
def Expr.leaves : Expr → List Value
  | .column _ | .literal _ | .keywords _ _ => []
  | .param value => [value]
  | .call _ args => args.flatMap Expr.leaves
  | .cast operand _ | .blob operand _ => operand.leaves
  | .fragment template args =>
      ((args.map fun arg =>
        match _ : Expr.ofValue arg with
        | .ok operand => operand.leaves
        | .error _ => []).take
          (slotCount (templatePieces template.toList))).flatten
  | .compare _ left right => left.leaves ++ right.leaves
  | .and first rest => first.leaves ++ rest.flatMap Expr.leaves
  | .or _ _ | .not _ | .nullCheck _ _ => []
  | .membership operand values =>
      match Membership.ofValues values with
      | .empty => []
      | .bound items => operand.leaves ++ items
      | .inlined _ => operand.leaves
      | .each => operand.leaves ++ values.flatMap Expr.leaves
termination_by operand => operand.weight
decreasing_by
  · exact Expr.weight_lt_of_mem_parts ‹_›
  · simp only [Expr.weight]
    omega
  · simp only [Expr.weight]
    omega
  · exact Expr.weight_lt_of_mem_parts (Expr.mem_parts_fragment ‹_› ‹_›)
  all_goals
    simp only [Expr.weight]
    try have := Expr.weight_lt_of_mem ‹_ ∈ _›
    omega

def Value.argumentLeaves (arg : Value) : List Value :=
  match Expr.ofValue arg with
  | .ok operand => operand.leaves
  | .error _ => []

theorem Expr.leaves_fragment (template : String) (args : List Value) :
    (Expr.fragment template args).leaves =
      ((args.map Value.argumentLeaves).take
        (slotCount (templatePieces template.toList))).flatten := by
  rw [leaves]
  congr 2
  refine List.map_congr_left fun arg _ => ?_
  unfold Value.argumentLeaves
  split <;> rename_i read <;> rw [read]

/-! ## The values that a layout carries -/

namespace Piece

@[simp] theorem carried_nil : carried [] = [] := rfl

@[simp] theorem carried_append (first second : List Piece) :
    carried (first ++ second) = carried first ++ carried second :=
  List.filterMap_append

@[simp] theorem carried_plain_cons (text : String) (rest : List Piece) :
    carried (.plain text :: rest) = carried rest := rfl

@[simp] theorem carried_mark (value : Value) :
    carried [.mark value] = [value] := rfl

@[simp] theorem carried_flaw_cons (cause : CompileError)
    (rest : List Piece) : carried (.flaw cause :: rest) = carried rest := rfl

@[simp] theorem carried_ofText_cons (outcome : Except CompileError String)
    (rest : List Piece) : carried (ofText outcome :: rest) = carried rest := by
  cases outcome <;> rfl

@[simp] theorem carried_ofConstant (value : Value) :
    carried [ofConstant value] = [] := by
  unfold ofConstant
  cases value.constant <;> rfl

@[simp] theorem carried_separated (separator : String)
    (layouts : List (List Piece)) :
    carried (separated separator layouts) = layouts.flatMap carried := by
  induction layouts using separated.induct with
  | case1 => rfl
  | case2 pieces => simp [separated]
  | case3 pieces next rest ih => simp [separated, ih]

@[simp] theorem carried_listed (operand : List Piece)
    (items : List (List Piece)) :
    carried (listed operand items) =
      carried operand ++ items.flatMap carried := by
  simp [listed]

theorem carried_filled (template : String) (count : Nat)
    (pieces : List TemplatePiece) (args : List (List Piece)) :
    carried (filled template count pieces args) =
      ((args.map carried).take (slotCount pieces)).flatten := by
  induction pieces generalizing args with
  | nil => cases args <;> simp [filled]
  | cons piece pieces ih =>
      cases piece with
      | plain character =>
          rw [filled, carried_plain_cons, ih, slotCount_plain_cons]
      | slot =>
          cases args with
          | nil =>
              rw [filled, carried_flaw_cons, ih]
              simp
          | cons arg args =>
              rw [filled, carried_append, ih, slotCount_slot_cons]
              simp

theorem carried_beforeFlaw_isPrefix (pieces : List Piece) :
    carried (beforeFlaw pieces) <+: carried pieces :=
  (List.takeWhile_prefix _).filterMap _

end Piece

namespace Expr

private theorem flatMap_carried_layout {operands : List Expr}
    (same : ∀ operand ∈ operands,
      Piece.carried operand.layout = operand.leaves) :
    (operands.map layout).flatMap Piece.carried =
      operands.flatMap leaves := by
  rw [List.flatMap_map]
  exact List.flatMap_congr same

theorem carried_layout (operand : Expr) :
    Piece.carried operand.layout = operand.leaves := by
  induction operand using partInduction with
  | whole operand ih =>
  cases operand with
  | column | literal | param | keywords | or | not | nullCheck =>
      simp [layout, leaves]
  | call function args =>
      have args := flatMap_carried_layout ih
      simp only [parts] at args
      simp [layout, leaves, args]
  | cast operand typeName =>
      have operand := ih operand List.mem_cons_self
      simp [layout, leaves, operand]
  | blob operand typeName =>
      have operand := ih operand List.mem_cons_self
      simp [layout, leaves, operand]
  | fragment template args =>
      have args_eq : (args.map Value.argumentLayout).map Piece.carried =
          args.map Value.argumentLeaves := by
        rw [List.map_map]
        apply List.map_congr_left
        intro arg member
        unfold Function.comp Value.argumentLayout Value.argumentLeaves
        cases read : Expr.ofValue arg with
        | ok operand => exact ih operand (mem_parts_fragment member read)
        | error issues => rfl
      rw [layout_fragment, leaves_fragment, Piece.carried_filled, args_eq]
  | compare comparison left right =>
      have left := ih left List.mem_cons_self
      have right := ih right (List.mem_cons_of_mem _ List.mem_cons_self)
      simp [layout, leaves, left, right]
  | and first rest =>
      have head := ih first List.mem_cons_self
      have tail := flatMap_carried_layout fun operand member =>
        ih operand (List.mem_cons_of_mem first member)
      simp only [layout, leaves, Piece.carried_separated, List.flatMap_cons,
        head, tail]
  | membership operand values =>
      rw [layout, leaves]
      cases found : Membership.ofValues values with
      | empty => rfl
      | bound items =>
          have operand := ih operand (by simp [parts, found])
          simp [operand, List.flatMap_map]
      | inlined items =>
          have operand := ih operand (by simp [parts, found])
          simp [operand, List.flatMap_map]
      | each =>
          have operand := ih operand (by simp [parts, found])
          have values : (values.map layout).flatMap Piece.carried = _ :=
            flatMap_carried_layout fun value member =>
              ih value (by simp [parts, found, member])
          simp only [Piece.carried_listed, operand, values]

/-! ## Rendering with a binder -/

def contribution (operand : Expr) (placeholder : String) : List Value :=
  (operand.render.runWith ⟨placeholder, []⟩).2.params

theorem contribution_eq (operand : Expr) (placeholder : String) :
    operand.contribution placeholder =
      Piece.carried (Piece.beforeFlaw operand.layout) := by
  rw [contribution, render_eq_writeAll, Piece.runWith_writeAll]
  exact List.nil_append _

theorem runWith_render (operand : Expr) (placeholder : String)
    (params : List Value) :
    operand.render.runWith ⟨placeholder, params⟩ =
      ((operand.render.runWith ⟨placeholder, []⟩).1,
        ⟨placeholder, params ++ operand.contribution placeholder⟩) := by
  rw [contribution_eq, render_eq_writeAll, Piece.runWith_writeAll,
    Piece.runWith_writeAll]

theorem contribution_of_outcome (operand : Expr) (placeholder : String) :
    match (operand.render.runWith ⟨placeholder, []⟩).1 with
    | .ok _ => operand.contribution placeholder = operand.leaves
    | .error _ => operand.contribution placeholder <+: operand.leaves := by
  rw [contribution_eq, ← carried_layout, render_eq_writeAll,
    Piece.runWith_writeAll]
  cases found : Piece.flaws operand.layout with
  | nil => simp [Piece.beforeFlaw_eq_self found]
  | cons cause others =>
      simpa using Piece.carried_beforeFlaw_isPrefix operand.layout

private theorem runPieces_cons (operand : Expr) (rest : List PieceRequest)
    (placeholder : String) (params : List Value) :
    runPieces ⟨placeholder, params⟩
        (.operandAsIs (.expr operand) :: rest) =
      (orRefuse (operand.render.runWith ⟨placeholder, []⟩).1,
          params ++ operand.contribution placeholder) ::
        runPieces
          ⟨placeholder, params ++ operand.contribution placeholder⟩ rest := by
  have run : (PieceRequest.operandAsIs (.expr operand)).run
      ⟨placeholder, params⟩ =
        (orRefuse (operand.render.runWith ⟨placeholder, []⟩).1,
          ⟨placeholder, params ++ operand.contribution placeholder⟩) := by
    rw [PieceRequest.run]
    change (orRefuse (operand.render.runWith ⟨placeholder, params⟩).1,
      (operand.render.runWith ⟨placeholder, params⟩).2) = _
    rw [runWith_render]
  simp only [runPieces, run]

theorem getElem?_runPieces (operands : List Expr) (placeholder : String)
    (params : List Value) (step : Nat) :
    (runPieces ⟨placeholder, params⟩
        (operands.map fun operand => .operandAsIs (.expr operand)))[step]? =
      operands[step]?.map fun operand =>
        (orRefuse (operand.render.runWith ⟨placeholder, []⟩).1,
          params ++ (operands.take (step + 1)).flatMap
            fun operand => operand.contribution placeholder) := by
  induction operands generalizing params step with
  | nil => rfl
  | cons operand rest ih =>
      rw [List.map_cons, runPieces_cons]
      cases step with
      | zero => simp
      | succ step => simp [ih]

/-- Rendering adds values behind those that are bound and gives the same text
or refusal whatever they are.  It adds all leaves, or the first of them where
it is refused.  Along a session every expression adds what it adds to an empty
binder, also after a refusal. -/
theorem binder_only_grows (placeholder : String) :
    (∀ operand : Expr, ∃ outcome added,
      (∀ params, operand.render.runWith ⟨placeholder, params⟩ =
        (outcome, ⟨placeholder, params ++ added⟩)) ∧
      match outcome with
      | .ok _ => added = operand.leaves
      | .error _ => added <+: operand.leaves) ∧
    ∀ (operands : List Expr) (params : List Value) (step : Nat),
      (runPieces ⟨placeholder, params⟩
          (operands.map fun operand => .operandAsIs (.expr operand)))[step]? =
        operands[step]?.map fun operand =>
          (orRefuse (operand.render.runWith ⟨placeholder, []⟩).1,
            params ++ (operands.take (step + 1)).flatMap
              fun operand => operand.contribution placeholder) := by
  constructor
  · intro operand
    exact ⟨(operand.render.runWith ⟨placeholder, []⟩).1,
      operand.contribution placeholder, operand.runWith_render placeholder,
      operand.contribution_of_outcome placeholder⟩
  · intro operands params step
    exact getElem?_runPieces operands placeholder params step

end Expr

end StructuredCql
