import Mathlib
import StructuredCql.Proofs.Components

/-!
# The calls that make the text of an expression

Three procedures make the text of an expression: one for operands, one for
relations, which hand expressions over to each other, and one that reads an
argument of a fragment and hands on what has been read.  Each of them is stated
here for itself, with whatever the procedures that it calls give.  The main
statement is that the calls end: a measure decreases with each of them, though
what is rendered next may have been read only just now, and the scanner of a
fragment advances with each turn.
-/

namespace StructuredCql

open StructuredCql.Text

/-! ## The turns of the scanner -/

/-- What is found at an index of a template, and the index of the next turn. -/
def templateTurn (text : List Char) (index : Nat) :
    Option (TemplatePiece × Nat) :=
  match text.drop index with
  | [] => none
  | '\\' :: '?' :: _ => some (.plain '?', index + 2)
  | '?' :: _ => some (.slot, index + 1)
  | character :: _ => some (.plain character, index + 1)

section Turns

variable {text : List Char} {index next : Nat} {piece : TemplatePiece}

theorem templateTurn_eq_none_iff :
    templateTurn text index = none ↔ text.length ≤ index := by
  unfold templateTurn
  rw [← List.drop_eq_nil_iff]
  split <;> simp_all

theorem advances_of_drop {front rest : List Char} (some : front ≠ [])
    (found : text.drop index = front ++ rest) :
    index < index + front.length ∧ index + front.length ≤ text.length ∧
      text.drop (index + front.length) = rest := by
  have length := congrArg List.length found
  have positive := List.length_pos_of_ne_nil some
  rw [List.length_drop, List.length_append] at length
  refine ⟨by omega, by omega, ?_⟩
  rw [← List.drop_drop, found, List.drop_left]

theorem drop_of_end (turn : templateTurn text index = none) :
    text.drop index = [] :=
  List.drop_eq_nil_iff.mpr (templateTurn_eq_none_iff.mp turn)

theorem templateTurn_advances
    (turn : templateTurn text index = some (piece, next)) :
    index < next ∧ next ≤ text.length ∧
      templatePieces (text.drop index) =
        piece :: templatePieces (text.drop next) := by
  unfold templateTurn at turn
  split at turn
  · cases turn
  · next rest found =>
    cases turn
    obtain ⟨further, inside, behind⟩ :=
      @advances_of_drop _ _ ['\\', '?'] rest (by simp) found
    refine ⟨further, inside, ?_⟩
    rw [found]
    exact congrArg (TemplatePiece.plain '?' :: templatePieces ·) behind.symm
  · next rest found =>
    cases turn
    obtain ⟨further, inside, behind⟩ :=
      @advances_of_drop _ _ ['?'] rest (by simp) found
    refine ⟨further, inside, ?_⟩
    rw [found]
    exact congrArg (TemplatePiece.slot :: templatePieces ·) behind.symm
  · next character rest notEscape notSlot found =>
    cases turn
    obtain ⟨further, inside, behind⟩ :=
      @advances_of_drop _ _ [character] rest (by simp) found
    refine ⟨further, inside, ?_⟩
    rw [found, templatePieces]
    · exact congrArg (TemplatePiece.plain character :: templatePieces ·)
        behind.symm
    · exact notEscape
    · exact notSlot

end Turns

/-! ## The procedures -/

/-- A call of one of the procedures that make the text of an expression: the
one for operands, the one for relations and the one for unread arguments. -/
inductive Call where
  | buildOperand (operand : Expr)
  | buildRelation (operand : Expr)
  | buildArgument (arg : Value)

def Expr.isRelational : Expr → Bool
  | .compare _ _ _ | .and _ _ | .or _ _ | .not _ | .membership _ _
  | .nullCheck _ _ => true
  | _ => false

namespace Call

section Procedures

variable (answer : Call → Build String)

def eachOperand : List Expr → Build (List String)
  | [] => pure []
  | operand :: rest => do
      let text ← answer (.buildOperand operand)
      pure (text :: (← eachOperand rest))

/-- The scanner of a fragment from an index on, and the number of arguments
that have been used up to there. -/
def scan (template : String) (args : List Value) (index used : Nat) :
    Build String :=
  match _ : templateTurn template.toList index with
  | none =>
      if used = args.length then pure ""
      else Build.refuse (.surplusArguments template used args.length)
  | some (.plain character, next) => do
      let rest ← scan template args next used
      pure (character.toString ++ rest)
  | some (.slot, next) =>
      match args[used]? with
      | none => Build.refuse (.missingArgument template args.length)
      | some arg => do
          let text ← answer (.buildArgument arg)
          let rest ← scan template args next (used + 1)
          pure (text ++ rest)
termination_by template.toList.length - index
decreasing_by
  all_goals
    have := templateTurn_advances ‹_›
    omega

def runOperand : Expr → Build String
  | .column name => Build.checked (columnName name)
  | .literal value => Build.checked value.constant
  | .param value => Build.mark value
  | .call function args => do
      let args ← eachOperand answer args
      pure (function.name ++ "(" ++ joined ", " args ++ ")")
  | .cast operand typeName => do
      let text ← answer (.buildOperand operand)
      let typeName ← Build.checked (checkedName .identifier typeName)
      pure ("cast(" ++ text ++ " as " ++ typeName ++ ")")
  | .blob operand typeName => do
      let function ← Build.checked (blobFunction typeName)
      let text ← answer (.buildOperand operand)
      pure (function ++ "(" ++ text ++ ")")
  | .fragment template args => scan answer template args 0 0
  | .keywords entries _ => Build.refuse (.keywordFragment entries)
  | relation => answer (.buildRelation relation)

def runRelation : Expr → Build String
  | .compare comparison left right => do
      let left ← answer (.buildOperand left)
      let right ← answer (.buildOperand right)
      pure (left ++ " " ++ comparison.symbol ++ " " ++ right)
  | .and first rest => do
      let conditions ← eachOperand answer (first :: rest)
      pure (joined " AND " conditions)
  | .or _ _ => Build.refuse (.unsupportedRelation .or)
  | .not _ => Build.refuse (.unsupportedRelation .not)
  | .nullCheck _ negated =>
      Build.refuse
        (.unsupportedRelation (if negated then .isNotNull else .isNull))
  | .membership operand values =>
      match Membership.ofValues values with
      | .empty => Build.refuse (.unsupportedRelation .notIn)
      | .bound items => do
          let operand ← answer (.buildOperand operand)
          let marks ← Build.markAll items
          pure (operand ++ " IN (" ++ joined "," marks ++ ")")
      | .inlined items => do
          let operand ← answer (.buildOperand operand)
          let constants ← Build.writeConstants items
          pure (operand ++ " IN (" ++ joined "," constants ++ ")")
      | .each => do
          let operand ← answer (.buildOperand operand)
          let values ← eachOperand answer values
          pure (operand ++ " IN (" ++ joined "," values ++ ")")
  | operand => answer (.buildOperand operand)

def runArgument (arg : Value) : Build String :=
  match Expr.ofValue arg with
  | .ok operand => answer (.buildOperand operand)
  | .error issues => Build.refuse (.unreadableArgument arg issues)

/-- One procedure runs, where it calls others it gets what they give. -/
def run : Call → Build String
  | .buildOperand operand => runOperand answer operand
  | .buildRelation operand => runRelation answer operand
  | .buildArgument value => runArgument answer value

end Procedures

def build : Call → Build String
  | .buildOperand operand | .buildRelation operand => operand.render
  | .buildArgument value => value.renderArgument

def callees : Call → List Call
  | .buildOperand operand =>
      if operand.isRelational then [.buildRelation operand]
      else operand.children.map .buildOperand ++
        operand.ownArguments.map .buildArgument
  | .buildRelation operand =>
      if operand.isRelational then operand.children.map .buildOperand
      else [.buildOperand operand]
  | .buildArgument value =>
      (Expr.ofValue value).toOption.toList.map .buildOperand

section Scan

variable {answer first second : Call → Build String} {template : String}
  {args : List Value} {index used next : Nat}

theorem scan_of_end (turn : templateTurn template.toList index = none) :
    scan answer template args index used =
      if used = args.length then pure ""
      else Build.refuse (.surplusArguments template used args.length) := by
  rw [scan]
  split <;> simp_all

theorem scan_of_plain {character : Char}
    (turn : templateTurn template.toList index =
      some (.plain character, next)) :
    scan answer template args index used = (do
      let rest ← scan answer template args next used
      pure (character.toString ++ rest)) := by
  rw [scan]
  split <;> simp_all

theorem scan_of_slot
    (turn : templateTurn template.toList index = some (.slot, next)) :
    scan answer template args index used =
      match args[used]? with
      | none => Build.refuse (.missingArgument template args.length)
      | some arg => (do
          let text ← answer (.buildArgument arg)
          let rest ← scan answer template args next (used + 1)
          pure (text ++ rest)) := by
  rw [scan]
  split <;> simp_all

theorem scan_congr
    (same : ∀ arg ∈ args,
      first (.buildArgument arg) = second (.buildArgument arg)) :
    scan first template args index used =
      scan second template args index used := by
  fun_induction scan first template args index used with
  | case1 index turn => rw [scan_of_end turn, if_pos rfl]
  | case2 index used turn other => rw [scan_of_end turn, if_neg other]
  | case3 index used character next turn ih =>
      rw [scan_of_plain turn, ih]
  | case4 index used next turn none =>
      rw [scan_of_slot turn, none]
  | case5 index used next turn arg found ih =>
      rw [scan_of_slot turn, found, same arg (List.mem_of_getElem? found), ih]

end Scan

/-! ## One procedure -/

theorem eachOperand_congr {first second : Call → Build String}
    {operands : List Expr}
    (same : ∀ operand ∈ operands,
      first (.buildOperand operand) = second (.buildOperand operand)) :
    eachOperand first operands = eachOperand second operands := by
  induction operands with
  | nil => rfl
  | cons operand rest ih =>
      obtain ⟨head, tail⟩ := List.forall_mem_cons.mp same
      rw [eachOperand, eachOperand, head, ih tail]

theorem runOperand_congr {first second : Call → Build String} {operand : Expr}
    (same : ∀ called ∈ (buildOperand operand).callees,
      first called = second called) :
    runOperand first operand = runOperand second operand := by
  cases operand with
  | column | literal | param | keywords => rfl
  | call function args =>
      have args := @eachOperand_congr first second args (by
        simpa [callees, Expr.isRelational, Expr.children, Expr.ownArguments]
          using same)
      rw [runOperand, runOperand, args]
  | cast operand | blob operand =>
      have operand : first (.buildOperand operand) =
          second (.buildOperand operand) := by
        simpa [callees, Expr.isRelational, Expr.children, Expr.ownArguments]
          using same
      rw [runOperand, runOperand, operand]
  | fragment template args =>
      rw [runOperand, runOperand]
      apply scan_congr
      simpa [callees, Expr.isRelational, Expr.children, Expr.ownArguments]
        using same
  | compare | and | or | not | membership | nullCheck =>
      exact same _ List.mem_cons_self

theorem runRelation_congr {first second : Call → Build String} {operand : Expr}
    (same : ∀ called ∈ (buildRelation operand).callees,
      first called = second called) :
    runRelation first operand = runRelation second operand := by
  cases operand with
  | or | not | nullCheck => rfl
  | column | literal | param | call | cast | blob | fragment | keywords =>
      exact same _ List.mem_cons_self
  | compare comparison left right =>
      have sides :
          first (.buildOperand left) = second (.buildOperand left) ∧
            first (.buildOperand right) = second (.buildOperand right) := by
        simpa [callees, Expr.isRelational, Expr.children] using same
      rw [runRelation, runRelation, sides.1, sides.2]
  | and left rest =>
      have operands := @eachOperand_congr first second (left :: rest) (by
        simpa [callees, Expr.isRelational, Expr.children] using same)
      rw [runRelation, runRelation, operands]
  | membership operand values =>
      have listed :
          first (.buildOperand operand) = second (.buildOperand operand) ∧
            ∀ value ∈ values,
              first (.buildOperand value) = second (.buildOperand value) := by
        simpa [callees, Expr.isRelational, Expr.children] using same
      rw [runRelation, runRelation, listed.1, eachOperand_congr listed.2]

theorem run_congr {first second : Call → Build String} {call : Call}
    (same : ∀ called ∈ call.callees, first called = second called) :
    run first call = run second call := by
  cases call with
  | buildOperand operand => exact runOperand_congr same
  | buildRelation operand => exact runRelation_congr same
  | buildArgument arg =>
      rw [run, run, runArgument, runArgument]
      cases read : Expr.ofValue arg with
      | error issues => rfl
      | ok operand => exact same _ (by simp [callees, read, Except.toOption])

theorem eachOperand_build (operands : List Expr) :
    eachOperand build operands = Expr.renderAll operands := by
  induction operands with
  | nil => rw [eachOperand, Expr.renderAll]
  | cons operand rest ih => rw [eachOperand, Expr.renderAll, ih, build]

theorem scan_build {template : String} {args : List Value} {index used : Nat}
    (within : used ≤ args.length)
    (counted : used + slotCount (templatePieces (template.toList.drop index)) =
      slotCount (templatePieces template.toList)) :
    scan build template args index used =
      Expr.renderPieces template args.length
        (templatePieces (template.toList.drop index)) (args.drop used) := by
  fun_induction scan build template args index used with
  | case1 index turn =>
      rw [drop_of_end turn, List.drop_length, templatePieces, Expr.renderPieces]
  | case2 index used turn other =>
      rw [drop_of_end turn] at counted ⊢
      obtain ⟨arg, rest, left⟩ := List.exists_cons_of_ne_nil
        (List.drop_eq_nil_iff.not.mpr (by omega : ¬ args.length ≤ used))
      rw [left, templatePieces, Expr.renderPieces, ← counted]
      rfl
  | case3 index used character next turn ih =>
      obtain ⟨_, _, pieces⟩ := templateTurn_advances turn
      rw [pieces, slotCount_plain_cons] at counted
      rw [pieces, Expr.renderPieces, ih within counted]
  | case4 index used next turn none =>
      obtain ⟨_, _, pieces⟩ := templateTurn_advances turn
      have used_up : args.drop used = [] :=
        List.drop_eq_nil_iff.mpr (List.getElem?_eq_none_iff.mp none)
      rw [pieces, used_up, Expr.renderPieces]
  | case5 index used next turn arg found ih =>
      obtain ⟨_, _, pieces⟩ := templateTurn_advances turn
      obtain ⟨inside, rfl⟩ := List.getElem?_eq_some_iff.mp found
      rw [pieces, slotCount_slot_cons] at counted
      rw [pieces, List.drop_eq_getElem_cons inside, Expr.renderPieces,
        ih inside (by omega), build]

theorem run_build (call : Call) : run build call = call.build := by
  cases call with
  | buildOperand operand =>
      cases operand with
      | compare | and | or | not | membership | nullCheck => rfl
      | fragment template args =>
          rw [run, runOperand, build, Expr.render]
          exact scan_build (Nat.zero_le _) (Nat.zero_add _)
      | _ => simp only [run, runOperand, build, Expr.render, eachOperand_build]
  | buildRelation operand =>
      cases operand with
      | compare | or | not | nullCheck =>
          simp only [run, runRelation, build, Expr.render]
      | and first rest =>
          simp only [run, runRelation, build, Expr.render, Expr.renderAll,
            eachOperand_build, bind_assoc, pure_bind]
      | membership operand values =>
          cases kind : Membership.ofValues values <;>
            simp only [run, runRelation, build, Expr.render, kind,
              eachOperand_build]
      | _ => rfl
  | buildArgument arg =>
      rw [run, runArgument, build, Value.renderArgument]
      cases Expr.ofValue arg <;> rfl

/-! ## The depth of the calls -/

/-- Expressions are handed over between the procedures without a change of
weight, and the procedure that they belong to comes last. -/
def measure : Call → Nat
  | .buildOperand operand =>
      3 * operand.weight + if operand.isRelational then 1 else 0
  | .buildRelation operand =>
      3 * operand.weight + if operand.isRelational then 0 else 1
  | .buildArgument arg => 3 * arg.argumentWeight + 2

theorem argumentWeight_lt_of_mem_ownArguments {arg : Value} {operand : Expr}
    (member : arg ∈ operand.ownArguments) :
    arg.argumentWeight < operand.weight := by
  cases operand with
  | fragment _ args | keywords _ args =>
      have := Value.argumentWeight_le_of_mem member
      simp only [Expr.ownArguments] at this
      simp only [Expr.weight]
      omega
  | _ => cases member

theorem measure_buildOperand_le (operand : Expr) :
    (buildOperand operand).measure ≤ 3 * operand.weight + 1 := by
  rw [measure]
  split <;> omega

theorem measure_lt_of_mem_callees {call called : Call}
    (member : called ∈ call.callees) : called.measure < call.measure := by
  cases call with
  | buildOperand operand =>
      cases relational : operand.isRelational with
      | true =>
          rw [callees, if_pos relational] at member
          cases List.mem_singleton.mp member
          simp [measure, relational]
      | false =>
          rw [callees, if_neg (by simp [relational])] at member
          rcases List.mem_append.mp member with isChild | isOwn
          · obtain ⟨child, held, rfl⟩ := List.mem_map.mp isChild
            have less := Expr.weight_lt_of_mem_children held
            have bound := measure_buildOperand_le child
            simp only [measure, relational] at bound ⊢
            omega
          · obtain ⟨arg, held, rfl⟩ := List.mem_map.mp isOwn
            have less := argumentWeight_lt_of_mem_ownArguments held
            simp only [measure, relational]
            omega
  | buildRelation operand =>
      cases relational : operand.isRelational with
      | true =>
          rw [callees, if_pos relational] at member
          obtain ⟨child, isChild, rfl⟩ := List.mem_map.mp member
          have less := Expr.weight_lt_of_mem_children isChild
          have bound := measure_buildOperand_le child
          simp only [measure, relational] at bound ⊢
          omega
      | false =>
          rw [callees, if_neg (by simp [relational])] at member
          cases List.mem_singleton.mp member
          simp [measure, relational]
  | buildArgument arg =>
      cases read : Expr.ofValue arg with
      | error issues => simp [callees, read, Except.toOption] at member
      | ok operand =>
          have only : called = .buildOperand operand := by
            simpa [callees, read, Except.toOption] using member
          have le := Expr.weight_le_of_argument read
          have bound := measure_buildOperand_le operand
          rw [only, measure.eq_3]
          omega

/-- Calls nested more deeply than the measure do not occur, whatever they would
give. -/
theorem iterate_run (others : Call → Build String) {call : Call} {depth : Nat}
    (enough : call.measure < depth) :
    (run^[depth] others) call = call.build := by
  induction depth generalizing call with
  | zero => omega
  | succ depth ih =>
      rw [Function.iterate_succ_apply']
      have same : ∀ called ∈ call.callees,
          (run^[depth] others) called = called.build := fun called member => by
        have := measure_lt_of_mem_callees member
        exact ih (by omega)
      rw [run_congr same, run_build]

end Call

/-- Rendering ends, although the arguments of fragments are read while an
expression is rendered: they are proper parts of what has been read before,
each call has a smaller measure than the call that it is made for, and each
turn of the scanner advances. -/
theorem rendering_ends :
    (∀ value operand, Expr.ofValue value = .ok operand →
      ∀ arg, operand.HoldsArgument arg → arg.IsProperPart value) ∧
    WellFounded Value.IsProperPart ∧
    (∀ call : Call,
      (∀ called ∈ call.callees, called.measure < call.measure) ∧
      (∀ first second, (∀ called ∈ call.callees, first called = second called) →
        Call.run first call = Call.run second call) ∧
      ∀ others depth, call.measure < depth →
        (Call.run^[depth] others) call = call.build) ∧
    (∀ text index, index < text.length →
      ∃ piece next, templateTurn text index = some (piece, next) ∧
        index < next ∧ next ≤ text.length ∧
        templatePieces (text.drop index) =
          piece :: templatePieces (text.drop next)) := by
  refine ⟨fun value operand read arg holds => holds.isProperPart read,
    Value.isProperPart_wellFounded, fun call => ⟨?_, ?_, ?_⟩, ?_⟩
  · exact fun called member => Call.measure_lt_of_mem_callees member
  · exact fun first second same => Call.run_congr same
  · exact fun others depth enough => Call.iterate_run others enough
  · intro text index inside
    obtain ⟨⟨piece, next⟩, turn⟩ := Option.ne_none_iff_exists'.mp
      (templateTurn_eq_none_iff.not.mpr (Nat.not_le.mpr inside))
    exact ⟨piece, next, turn, templateTurn_advances turn⟩

def nestedFragment : Value :=
  .mapping [(.text "fragment", .text "f(?)"), (.text "args", .list [inner])]
where
  inner := .mapping [(.text "fragment", .text "g(?)"),
    (.text "args", .list [.mapping [(.text "col", .text "a")]])]

theorem rendering_ends_nestedFragment :
    nestedFragment.inner.IsProperPart nestedFragment ∧
      ((Call.run^[64] fun _ => Build.refuse .nullLiteral)
        (.buildArgument nestedFragment)).runWith .empty =
          (.ok "f(g(a))", .empty) := by
  have read : Expr.ofValue nestedFragment =
      .ok (.fragment "f(?)" [nestedFragment.inner]) := by cbv
  refine ⟨rendering_ends.1 _ _ read _ (.own List.mem_cons_self), ?_⟩
  rw [(rendering_ends.2.2.1 _).2.2 _ 64 (by decide)]
  cbv

end StructuredCql
