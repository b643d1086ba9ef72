import Mathlib.Data.List.Basic
import StructuredCql.Proofs.Layout

/-!
# Flaws of expressions

What can be wrong with an expression, told in two ways: as a property, which
holds where something is wrong with what is written for the expression, and as
the list of all causes in the order in which writing meets their places.  The
main statement is that exactly the expressions without a flaw are rendered, and
that a refusal gives the first cause of the list.
-/

namespace StructuredCql

namespace Expr

/-- Something is wrong with an expression or with a part of it. -/
inductive Flawed : Expr → Prop
  | or (first : Expr) (rest : List Expr) : Flawed (.or first rest)
  | not (operand : Expr) : Flawed (.not operand)
  | nullCheck (operand : Expr) (negated : Bool) :
      Flawed (.nullCheck operand negated)
  | noValues (operand : Expr) : Flawed (.membership operand [])
  | noBoundItems {value : Value} (operand : Expr) :
      value.items? = some [] → Flawed (.membership operand [.param value])
  | noInlinedItems {value : Value} (operand : Expr) :
      value.items? = some [] → Flawed (.membership operand [.literal value])
  | literal {value : Value} {cause : CompileError} :
      value.constant = .error cause → Flawed (.literal value)
  | inlinedItem {value item : Value} {items : List Value}
      {cause : CompileError} (operand : Expr) :
      value.items? = some items → item ∈ items →
      item.constant = .error cause →
      Flawed (.membership operand [.literal value])
  | column {name : String} {cause : CompileError} :
      columnName name = .error cause → Flawed (.column name)
  | castType {typeName : String} {cause : CompileError} (operand : Expr) :
      checkedName .identifier typeName = .error cause →
      Flawed (.cast operand typeName)
  | blobType {typeName : String} {cause : CompileError} (operand : Expr) :
      checkedName .identifier typeName = .error cause →
      Flawed (.blob operand typeName)
  | keywords (entries : List (String × Value)) (args : List Value) :
      Flawed (.keywords entries args)
  | slots {template : String} {args : List Value} :
      slotCount (templatePieces template.toList) ≠ args.length →
      Flawed (.fragment template args)
  | argument {template : String} {args : List Value} {arg : Value}
      {issues : List Issue} :
      arg ∈ args → Expr.ofValue arg = .error issues →
      Flawed (.fragment template args)
  | part {part whole : Expr} :
      part ∈ whole.parts → Flawed part → Flawed whole

end Expr

def refusals : Except CompileError α → List CompileError
  | .ok _ => []
  | .error cause => [cause]

theorem refusals_eq_nil {outcome : Except CompileError α}
    (accepted : ∀ cause, outcome ≠ .error cause) : refusals outcome = [] := by
  cases outcome with
  | ok _ => rfl
  | error cause => exact absurd rfl (accepted cause)

theorem exists_ok_of_refusals_eq_nil {outcome : Except CompileError α}
    (none : refusals outcome = []) : ∃ result, outcome = .ok result := by
  cases outcome with
  | ok result => exact ⟨result, rfl⟩
  | error cause => cases none

/-- The causes in a template, from those in its arguments: slot by slot, with
the missing arguments at their slots and the surplus ones at the end. -/
def slotFlaws (template : String) (args : List (List CompileError)) :
    List CompileError :=
  let slots := slotCount (templatePieces template.toList)
  (args.take slots).flatten ++
    List.replicate (slots - args.length)
      (.missingArgument template args.length) ++
    if slots < args.length then
      [.surplusArguments template slots args.length]
    else []

/-- All causes in visiting order. -/
def Expr.flaws : Expr → List CompileError
  | .column name => refusals (columnName name)
  | .literal value => refusals value.constant
  | .param _ => []
  | .call _ args => args.flatMap Expr.flaws
  | .cast operand typeName =>
      operand.flaws ++ refusals (checkedName .identifier typeName)
  | .blob operand typeName =>
      refusals (checkedName .identifier typeName) ++ operand.flaws
  | .fragment template args =>
      slotFlaws template (args.map fun arg =>
        match _ : Expr.ofValue arg with
        | .ok operand => operand.flaws
        | .error issues => [.unreadableArgument arg issues])
  | .keywords entries _ => [.keywordFragment entries]
  | .compare _ left right => left.flaws ++ right.flaws
  | .and first rest => first.flaws ++ rest.flatMap Expr.flaws
  | .or _ _ => [.unsupportedRelation .or]
  | .not _ => [.unsupportedRelation .not]
  | .membership operand values =>
      match Membership.ofValues values with
      | .empty => [.unsupportedRelation .notIn]
      | .bound _ => operand.flaws
      | .inlined items =>
          operand.flaws ++ items.flatMap fun item => refusals item.constant
      | .each => operand.flaws ++ values.flatMap Expr.flaws
  | .nullCheck _ negated =>
      [.unsupportedRelation (if negated then .isNotNull else .isNull)]
termination_by operand => operand.weight
decreasing_by
  · exact Expr.weight_lt_of_mem_parts ‹_›
  · simp only [Expr.weight]
    omega
  · simp only [Expr.weight]
    omega
  · exact Expr.weight_lt_of_mem_parts (Expr.mem_parts_fragment ‹_› ‹_›)
  all_goals
    simp only [Expr.weight]
    try have := Expr.weight_lt_of_mem ‹_ ∈ _›
    omega

def Value.argumentFlaws (arg : Value) : List CompileError :=
  match Expr.ofValue arg with
  | .ok operand => operand.flaws
  | .error issues => [.unreadableArgument arg issues]

theorem Expr.flaws_fragment (template : String) (args : List Value) :
    (Expr.fragment template args).flaws =
      slotFlaws template (args.map Value.argumentFlaws) := by
  rw [flaws]
  congr 1
  refine List.map_congr_left fun arg _ => ?_
  unfold Value.argumentFlaws
  split <;> rename_i read <;> rw [read]

theorem refusals_blobFunction (typeName : String) :
    refusals (blobFunction typeName) =
      refusals (checkedName .identifier typeName) := by
  unfold blobFunction
  cases checkedName .identifier typeName <;> rfl

/-! ## The flaws of a layout -/

namespace Piece

@[simp] theorem flaws_ofText (outcome : Except CompileError String) :
    flaws [ofText outcome] = refusals outcome := by
  cases outcome <;> rfl

@[simp] theorem flaws_ofConstant (value : Value) :
    flaws [ofConstant value] = refusals value.constant := by
  unfold ofConstant
  cases value.constant <;> rfl

@[simp] theorem flaws_ofText_cons (outcome : Except CompileError String)
    (rest : List Piece) :
    flaws (ofText outcome :: rest) = refusals outcome ++ flaws rest := by
  cases outcome <;> rfl

@[simp] theorem flaws_nil : flaws [] = [] := rfl

@[simp] theorem flaws_mark (value : Value) : flaws [.mark value] = [] := rfl

@[simp] theorem flaws_plain_cons (text : String) (rest : List Piece) :
    flaws (.plain text :: rest) = flaws rest := rfl

@[simp] theorem flaws_flaw_cons (cause : CompileError) (rest : List Piece) :
    flaws (.flaw cause :: rest) = cause :: flaws rest := rfl

@[simp] theorem flaws_separated (separator : String)
    (layouts : List (List Piece)) :
    flaws (separated separator layouts) = layouts.flatMap flaws := by
  induction layouts using separated.induct with
  | case1 => rfl
  | case2 pieces => simp [separated]
  | case3 pieces next rest ih => simp [separated, ih]

theorem flaws_listed (operand : List Piece) (items : List (List Piece)) :
    flaws (listed operand items) = flaws operand ++ items.flatMap flaws := by
  simp [listed]

theorem flaws_filled (template : String) (count : Nat)
    (pieces : List TemplatePiece) (args : List (List Piece)) :
    flaws (filled template count pieces args) =
      ((args.map flaws).take (slotCount pieces)).flatten ++
        List.replicate (slotCount pieces - args.length)
          (.missingArgument template count) ++
        if slotCount pieces < args.length then
          [.surplusArguments template
            (slotCount (templatePieces template.toList)) count]
        else [] := by
  induction pieces generalizing args with
  | nil => cases args <;> simp [filled, flaws, flaw?]
  | cons piece pieces ih =>
      cases piece with
      | plain character =>
          rw [filled, flaws_plain_cons, ih, slotCount_plain_cons]
      | slot =>
          rw [slotCount_slot_cons]
          cases args with
          | nil =>
              rw [filled, flaws_flaw_cons, ih]
              simp [List.replicate_succ]
          | cons arg args =>
              rw [filled, flaws_append, ih]
              simp

end Piece

namespace Expr

private theorem flatMap_flaws_layout {operands : List Expr}
    (same : ∀ operand ∈ operands,
      Piece.flaws operand.layout = operand.flaws) :
    (operands.map layout).flatMap Piece.flaws = operands.flatMap flaws := by
  rw [List.flatMap_map]
  exact List.flatMap_congr same

theorem flaws_layout (operand : Expr) :
    Piece.flaws operand.layout = operand.flaws := by
  induction operand using partInduction with
  | whole operand ih =>
  cases operand with
  | column | literal =>
      simp only [layout, flaws, Piece.flaws_ofText, Piece.flaws_ofConstant]
  | param | keywords | or | not | nullCheck =>
      simp only [layout, flaws]
      rfl
  | call function args =>
      have args : (args.map layout).flatMap Piece.flaws = _ :=
        flatMap_flaws_layout ih
      simp only [layout, flaws, Piece.flaws_plain_cons, Piece.flaws_append,
        Piece.flaws_separated, args, Piece.flaws_nil, List.append_nil]
  | cast operand typeName =>
      have operand := ih operand List.mem_cons_self
      simp only [layout, flaws, operand, Piece.flaws_plain_cons,
        Piece.flaws_append, Piece.flaws_ofText_cons, Piece.flaws_nil,
        List.append_nil]
  | blob operand typeName =>
      have operand := ih operand List.mem_cons_self
      simp only [layout, flaws, operand, Piece.flaws_plain_cons,
        Piece.flaws_append, Piece.flaws_ofText_cons, Piece.flaws_nil,
        List.append_nil, refusals_blobFunction]
  | fragment template args =>
      have args_eq : (args.map Value.argumentLayout).map Piece.flaws =
          args.map Value.argumentFlaws := by
        rw [List.map_map]
        apply List.map_congr_left
        intro arg member
        unfold Function.comp Value.argumentLayout Value.argumentFlaws
        cases read : Expr.ofValue arg with
        | ok operand => exact ih operand (mem_parts_fragment member read)
        | error issues => rfl
      rw [layout_fragment, flaws_fragment, Piece.flaws_filled, args_eq,
        slotFlaws]
      simp only [List.length_map]
  | compare comparison left right =>
      have left := ih left List.mem_cons_self
      have right := ih right (List.mem_cons_of_mem _ List.mem_cons_self)
      simp only [layout, flaws, left, right, Piece.flaws_append,
        Piece.flaws_plain_cons]
  | and first rest =>
      have head := ih first List.mem_cons_self
      have tail := flatMap_flaws_layout fun operand member =>
        ih operand (List.mem_cons_of_mem first member)
      simp only [layout, flaws, Piece.flaws_separated, List.flatMap_cons,
        head, tail]
  | membership operand values =>
      rw [layout, flaws]
      cases found : Membership.ofValues values with
      | empty => rfl
      | bound items =>
          have operand := ih operand (by simp [parts, found])
          simp [Piece.flaws_listed, operand, List.flatMap_map]
      | inlined items =>
          have operand := ih operand (by simp [parts, found])
          simp only [Piece.flaws_listed, operand, List.flatMap_map,
            Piece.flaws_ofConstant]
      | each =>
          have operand := ih operand (by simp [parts, found])
          have values : (values.map layout).flatMap Piece.flaws = _ :=
            flatMap_flaws_layout fun value member =>
              ih value (by simp [parts, found, member])
          simp only [Piece.flaws_listed, operand, values]

/-! ## No flaw -/

private theorem slotFlaws_eq_nil_iff {template : String}
    {args : List (List CompileError)} :
    slotFlaws template args = [] ↔
      slotCount (templatePieces template.toList) = args.length ∧
        ∀ causes ∈ args, causes = [] := by
  unfold slotFlaws
  simp only [List.append_eq_nil_iff, List.flatten_eq_nil_iff,
    List.replicate_eq_nil_iff]
  constructor
  · rintro ⟨⟨filled, missing⟩, surplus⟩
    have : ¬ slotCount (templatePieces template.toList) < args.length := by
      intro less
      simp [less] at surplus
    have same : slotCount (templatePieces template.toList) = args.length := by
      omega
    rw [same, List.take_length] at filled
    exact ⟨same, filled⟩
  · rintro ⟨same, none⟩
    rw [same, List.take_length]
    exact ⟨⟨none, Nat.sub_self _⟩, if_neg (Nat.lt_irrefl _)⟩

theorem flaws_fragment_eq_nil_iff {template : String} {args : List Value} :
    (Expr.fragment template args).flaws = [] ↔
      slotCount (templatePieces template.toList) = args.length ∧
        ∀ arg ∈ args, ∃ operand, Expr.ofValue arg = .ok operand ∧
          operand.flaws = [] := by
  rw [flaws_fragment, slotFlaws_eq_nil_iff, List.length_map,
    List.forall_mem_map]
  refine and_congr_right fun _ => forall₂_congr fun arg _ => ?_
  unfold Value.argumentFlaws
  cases Expr.ofValue arg with
  | ok operand => simp
  | error issues => simp

theorem flaws_eq_nil_of_mem_parts {part whole : Expr}
    (member : part ∈ whole.parts) (none : whole.flaws = []) :
    part.flaws = [] := by
  cases whole with
  | column | literal | param | keywords | or | not | nullCheck => cases member
  | call function args =>
      rw [flaws, List.flatMap_eq_nil_iff] at none
      exact none part member
  | cast operand | blob operand =>
      cases List.mem_singleton.mp member
      simp only [flaws, List.append_eq_nil_iff] at none
      simp only [none]
  | fragment template args =>
      obtain ⟨arg, isArg, reads⟩ := List.mem_filterMap.mp member
      obtain ⟨operand, read, sound⟩ :=
        (flaws_fragment_eq_nil_iff.mp none).2 arg isArg
      rw [read] at reads
      cases reads
      exact sound
  | compare comparison left right =>
      simp only [flaws, List.append_eq_nil_iff] at none
      simp only [parts, List.mem_cons, List.not_mem_nil, or_false] at member
      rcases member with rfl | rfl
      · exact none.1
      · exact none.2
  | and first rest =>
      simp only [flaws, List.append_eq_nil_iff, List.flatMap_eq_nil_iff]
        at none
      rcases List.mem_cons.mp member with rfl | member
      · exact none.1
      · exact none.2 part member
  | membership operand values =>
      rw [flaws] at none
      rw [parts] at member
      cases found : Membership.ofValues values <;>
        simp only [found, List.append_eq_nil_iff, List.flatMap_eq_nil_iff]
          at none member
      · cases none
      · cases List.mem_singleton.mp member
        exact none
      · cases List.mem_singleton.mp member
        exact none.1
      · rcases List.mem_cons.mp member with rfl | member
        · exact none.1
        · exact none.2 part member

theorem flaws_ne_nil_of_flawed {operand : Expr} (flawed : operand.Flawed) :
    operand.flaws ≠ [] := by
  induction flawed with
  | or | not | nullCheck | keywords => simp [flaws]
  | noValues => simp [flaws, Membership.ofValues]
  | noBoundItems _ found => simp [flaws, Membership.ofValues, found]
  | noInlinedItems _ found => simp [flaws, Membership.ofValues, found]
  | literal refused => simp [flaws, refused, refusals]
  | column refused => simp [flaws, refused, refusals]
  | castType _ refused => simp [flaws, refused, refusals]
  | blobType _ refused => simp [flaws, refused, refusals]
  | inlinedItem _ found member refused =>
      rw [flaws, Membership.ofValues_literal found (List.ne_nil_of_mem member)]
      intro none
      have := List.flatMap_eq_nil_iff.mp (List.append_eq_nil_iff.mp none).2
        _ member
      simp [refused, refusals] at this
  | slots differ =>
      intro none
      exact differ (flaws_fragment_eq_nil_iff.mp none).1
  | argument member unread =>
      intro none
      obtain ⟨operand, read, _⟩ :=
        (flaws_fragment_eq_nil_iff.mp none).2 _ member
      rw [unread] at read
      cases read
  | part member _ ih =>
      intro none
      exact ih (flaws_eq_nil_of_mem_parts member none)

theorem flaws_eq_nil_of_not_flawed {operand : Expr}
    (sound : ¬ operand.Flawed) : operand.flaws = [] := by
  induction operand using partInduction with
  | whole operand ih =>
  have parts_sound : ∀ part ∈ operand.parts, part.flaws = [] := by
    intro part member
    apply ih part member
    intro flawed
    exact sound (.part member flawed)
  cases operand with
  | column name =>
      rw [flaws]
      apply refusals_eq_nil
      intro cause refused
      exact sound (.column refused)
  | literal value =>
      rw [flaws]
      apply refusals_eq_nil
      intro cause refused
      exact sound (.literal refused)
  | param => rw [flaws]
  | call function args =>
      rw [flaws]
      exact List.flatMap_eq_nil_iff.mpr parts_sound
  | cast operand typeName =>
      have name := refusals_eq_nil fun cause refused =>
        sound (.castType operand refused)
      rw [flaws, name, parts_sound operand List.mem_cons_self]
      rfl
  | blob operand typeName =>
      have name := refusals_eq_nil fun cause refused =>
        sound (.blobType operand refused)
      rw [flaws, name, parts_sound operand List.mem_cons_self]
      rfl
  | fragment template args =>
      apply flaws_fragment_eq_nil_iff.mpr
      constructor
      · exact Decidable.not_not.mp fun differ => sound (.slots differ)
      · intro arg member
        cases read : Expr.ofValue arg with
        | ok operand =>
            exact ⟨operand, rfl,
              parts_sound operand (mem_parts_fragment member read)⟩
        | error issues => exact absurd (.argument member read) sound
  | keywords entries args => exact absurd (.keywords entries args) sound
  | compare comparison left right =>
      rw [flaws, parts_sound left (by simp [parts]),
        parts_sound right (by simp [parts])]
      rfl
  | and first rest =>
      rw [flaws, parts_sound first (by simp [parts])]
      apply List.flatMap_eq_nil_iff.mpr
      intro operand member
      exact parts_sound operand (by simp [parts, member])
  | or first rest => exact absurd (.or first rest) sound
  | not operand => exact absurd (.not operand) sound
  | nullCheck operand negated => exact absurd (.nullCheck operand negated) sound
  | membership operand values =>
      have written : operand ∈ (Expr.membership operand values).parts →
          operand.flaws = [] := parts_sound operand
      rw [parts] at parts_sound written
      rw [flaws]
      cases found : Membership.ofValues values with
      | empty =>
          rcases Membership.ofValues_eq_empty found with
            rfl | ⟨value, none, rfl | rfl⟩
          · exact absurd (.noValues operand) sound
          · exact absurd (.noBoundItems operand none) sound
          · exact absurd (.noInlinedItems operand none) sound
      | bound items => exact written (by simp [found])
      | inlined items =>
          obtain ⟨value, held, _, rfl⟩ :=
            Membership.ofValues_eq_inlined found
          apply List.append_eq_nil_iff.mpr
          constructor
          · exact written (by simp [found])
          · apply List.flatMap_eq_nil_iff.mpr
            intro item member
            apply refusals_eq_nil
            intro cause refused
            exact sound (.inlinedItem operand held member refused)
      | each =>
          apply List.append_eq_nil_iff.mpr
          constructor
          · exact written (by simp [found])
          · apply List.flatMap_eq_nil_iff.mpr
            intro value member
            exact parts_sound value (by simp [found, member])

theorem flaws_eq_nil_iff {operand : Expr} :
    operand.flaws = [] ↔ ¬ operand.Flawed := by
  constructor
  · intro none flawed
    exact flaws_ne_nil_of_flawed flawed none
  · exact flaws_eq_nil_of_not_flawed

/-- An expression without a flaw is rendered, and any other is refused for its
first flaw in visiting order. -/
theorem render_ok_iff_and_error_iff (operand : Expr) (binder : Binder) :
    ((∃ text, (operand.render.runWith binder).1 = .ok text) ↔
        ¬ operand.Flawed) ∧
      ∀ cause, (operand.render.runWith binder).1 = .error cause ↔
        operand.flaws.head? = some cause := by
  rw [render_eq_writeAll, Piece.runWith_writeAll, flaws_layout,
    ← flaws_eq_nil_iff]
  cases operand.flaws with
  | nil => simp
  | cons cause others => simp

end Expr

end StructuredCql
