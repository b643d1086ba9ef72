import StructuredCql.Expr.Render
import StructuredCql.Proofs.Parts

/-!
# The layout of expressions

A layout lists what an expression is written as, from the left to the right:
plain text, constants, marks with the values they stand for, and flaws, which
are the places where writing stops.  No binder occurs in it.  The main
statement is that rendering an expression is writing the pieces of its layout
one after the other.
-/

namespace StructuredCql

open StructuredCql.Text

inductive Piece where
  | plain (text : String)
  | constant (value : Value) (text : String)
  | mark (value : Value)
  | flaw (cause : CompileError)

namespace Piece

def ofText : Except CompileError String → Piece
  | .ok name => .plain name
  | .error cause => .flaw cause

def ofConstant (value : Value) : Piece :=
  match value.constant with
  | .ok text => .constant value text
  | .error cause => .flaw cause

def separated (separator : String) : List (List Piece) → List Piece
  | [] => []
  | [pieces] => pieces
  | pieces :: next :: rest =>
      pieces ++ .plain separator :: separated separator (next :: rest)

/-- A template with the layouts of the arguments in its slots.  A slot without
an argument is a flaw there, arguments without a slot are one at the end. -/
def filled (template : String) (count : Nat) :
    List TemplatePiece → List (List Piece) → List Piece
  | [], [] => []
  | [], _ :: _ =>
      [.flaw (.surplusArguments template
        (slotCount (templatePieces template.toList)) count)]
  | .plain character :: pieces, args =>
      .plain character.toString :: filled template count pieces args
  | .slot :: pieces, [] =>
      .flaw (.missingArgument template count) ::
        filled template count pieces []
  | .slot :: pieces, arg :: args => arg ++ filled template count pieces args

def listed (operand : List Piece) (items : List (List Piece)) : List Piece :=
  operand ++ .plain " IN (" :: (separated "," items ++ [.plain ")"])

end Piece

open Piece in
def Expr.layout : Expr → List Piece
  | .column name => [ofText (columnName name)]
  | .literal value => [ofConstant value]
  | .param value => [.mark value]
  | .call function args =>
      .plain (function.name ++ "(") ::
        (separated ", " (args.map Expr.layout) ++ [.plain ")"])
  | .cast operand typeName =>
      .plain "cast(" :: (operand.layout ++
        [.plain " as ", ofText (checkedName .identifier typeName),
          .plain ")"])
  | .blob operand typeName =>
      ofText (blobFunction typeName) :: .plain "(" ::
        (operand.layout ++ [.plain ")"])
  | .fragment template args =>
      filled template args.length (templatePieces template.toList)
        (args.map fun arg =>
          match _ : Expr.ofValue arg with
          | .ok operand => operand.layout
          | .error issues => [.flaw (.unreadableArgument arg issues)])
  | .keywords entries _ => [.flaw (.keywordFragment entries)]
  | .compare comparison left right =>
      left.layout ++
        .plain (" " ++ comparison.symbol ++ " ") :: right.layout
  | .and first rest =>
      separated " AND " (first.layout :: rest.map Expr.layout)
  | .or _ _ => [.flaw (.unsupportedRelation .or)]
  | .not _ => [.flaw (.unsupportedRelation .not)]
  | .membership operand values =>
      match Membership.ofValues values with
      | .empty => [.flaw (.unsupportedRelation .notIn)]
      | .bound items =>
          listed operand.layout (items.map fun item => [.mark item])
      | .inlined items =>
          listed operand.layout (items.map fun item => [ofConstant item])
      | .each => listed operand.layout (values.map Expr.layout)
  | .nullCheck _ negated =>
      [.flaw (.unsupportedRelation (if negated then .isNotNull else .isNull))]
termination_by operand => operand.weight
decreasing_by
  · exact Expr.weight_lt_of_mem_parts ‹_›
  · simp only [Expr.weight]
    omega
  · simp only [Expr.weight]
    omega
  · exact Expr.weight_lt_of_mem_parts (Expr.mem_parts_fragment ‹_› ‹_›)
  all_goals
    simp only [Expr.weight]
    try have := Expr.weight_lt_of_mem ‹_ ∈ _›
    omega

def Value.argumentLayout (arg : Value) : List Piece :=
  match Expr.ofValue arg with
  | .ok operand => operand.layout
  | .error issues => [.flaw (.unreadableArgument arg issues)]

theorem Expr.layout_fragment (template : String) (args : List Value) :
    (Expr.fragment template args).layout =
      Piece.filled template args.length (templatePieces template.toList)
        (args.map Value.argumentLayout) := by
  rw [layout]
  congr 1
  refine List.map_congr_left fun arg _ => ?_
  unfold Value.argumentLayout
  split <;> rename_i read <;> rw [read]

/-! ## Writing a layout -/

namespace Piece

def write : Piece → Build String
  | .plain text | .constant _ text => pure text
  | .mark value => Build.mark value
  | .flaw cause => Build.refuse cause

def writeAll : List Piece → Build String
  | [] => pure ""
  | piece :: rest => do
      let text ← piece.write
      pure (text ++ (← writeAll rest))

@[simp] theorem write_plain (text : String) :
    (plain text).write = pure text := rfl

@[simp] theorem write_mark (value : Value) :
    (mark value).write = Build.mark value := rfl

@[simp] theorem write_flaw (cause : CompileError) :
    (flaw cause).write = Build.refuse cause := rfl

@[simp] theorem write_ofText (outcome : Except CompileError String) :
    (ofText outcome).write = Build.checked outcome := by
  cases outcome <;> rfl

@[simp] theorem write_ofConstant (value : Value) :
    (ofConstant value).write = Build.checked value.constant := by
  unfold ofConstant
  cases value.constant <;> rfl

@[simp] theorem writeAll_singleton (piece : Piece) :
    writeAll [piece] = piece.write := by
  simp [writeAll]

theorem writeAll_append (first second : List Piece) :
    writeAll (first ++ second) = (do
      let text ← writeAll first
      pure (text ++ (← writeAll second))) := by
  induction first with
  | nil =>
      simp only [List.nil_append, writeAll, pure_bind, String.empty_append,
        bind_pure]
  | cons piece rest ih =>
      simp only [List.cons_append, writeAll, ih, bind_assoc, pure_bind,
        String.append_assoc]

theorem separated_cons (separator : String) (pieces : List Piece)
    (rest : List (List Piece)) :
    separated separator (pieces :: rest) =
      pieces ++ rest.flatMap (.plain separator :: ·) := by
  induction rest generalizing pieces with
  | nil => simp [separated]
  | cons next rest ih =>
      rw [separated, ih, List.flatMap_cons]
      rfl

theorem writeAll_separated (separator : String)
    (layouts : List (List Piece)) :
    writeAll (separated separator layouts) = (do
      pure (joined separator (← layouts.mapM writeAll))) := by
  induction layouts using separated.induct with
  | case1 => rfl
  | case2 pieces =>
      simp only [separated, List.mapM_cons, List.mapM_nil, pure_bind,
        bind_assoc, joined, bind_pure]
  | case3 pieces next rest ih =>
      simp only [separated, writeAll_append, writeAll, write_plain, ih,
        pure_bind, bind_assoc, List.mapM_cons, joined, String.append_assoc]

theorem writeAll_listed (operand : List Piece) (items : List (List Piece)) :
    writeAll (listed operand items) = (do
      let operand ← writeAll operand
      let items ← items.mapM writeAll
      pure (operand ++ " IN (" ++ joined "," items ++ ")")) := by
  simp only [listed, writeAll_append, writeAll, write_plain,
    writeAll_separated, pure_bind, bind_assoc, String.append_assoc,
    String.append_empty]

theorem writeAll_filled (template : String) (count : Nat)
    (pieces : List TemplatePiece) (args : List Value)
    (same : ∀ arg ∈ args,
      Value.renderArgument arg = writeAll arg.argumentLayout) :
    writeAll (filled template count pieces (args.map Value.argumentLayout)) =
      Expr.renderPieces template count pieces args := by
  induction pieces generalizing args with
  | nil =>
      cases args with
      | nil => simp only [List.map_nil, filled, writeAll, Expr.renderPieces]
      | cons arg args =>
          simp only [List.map_cons, filled, writeAll_singleton, write_flaw,
            Expr.renderPieces]
  | cons piece pieces ih =>
      cases piece with
      | plain character =>
          simp only [filled, writeAll, write_plain, Expr.renderPieces,
            ih args same, pure_bind]
      | slot =>
          cases args with
          | nil =>
              simp only [List.map_nil, filled, writeAll, write_flaw,
                Expr.renderPieces, Build.refuse_bind]
          | cons arg args =>
              have rest := ih args fun other member =>
                same other (List.mem_cons_of_mem arg member)
              simp only [List.map_cons, filled, writeAll_append,
                Expr.renderPieces, rest, same arg List.mem_cons_self]

/-! ## What a layout gives -/

def textWith (placeholder : String) : Piece → String
  | .plain text | .constant _ text => text
  | .mark _ => placeholder
  | .flaw _ => ""

def value? : Piece → Option Value
  | .mark value => some value
  | _ => none

def flaw? : Piece → Option CompileError
  | .flaw cause => some cause
  | _ => none

/-- The pieces one after the other, with the placeholder for every mark. -/
def written (placeholder : String) : List Piece → String
  | [] => ""
  | piece :: rest => piece.textWith placeholder ++ written placeholder rest

def carried (pieces : List Piece) : List Value := pieces.filterMap value?

def flaws (pieces : List Piece) : List CompileError := pieces.filterMap flaw?

def beforeFlaw (pieces : List Piece) : List Piece :=
  pieces.takeWhile fun piece => piece.flaw?.isNone

theorem written_append (placeholder : String) (first second : List Piece) :
    written placeholder (first ++ second) =
      written placeholder first ++ written placeholder second := by
  induction first with
  | nil => simp [written]
  | cons piece rest ih => simp [written, ih, String.append_assoc]

@[simp] theorem flaws_append (first second : List Piece) :
    flaws (first ++ second) = flaws first ++ flaws second :=
  List.filterMap_append

theorem carried_cons (piece : Piece) (rest : List Piece) :
    carried (piece :: rest) = piece.value?.toList ++ carried rest := by
  cases found : piece.value? <;> simp [carried, found]

theorem count_written (pieces : List Piece) :
    (written "?" pieces).toList.count '?' =
      (written "" pieces).toList.count '?' + (carried pieces).length := by
  induction pieces with
  | nil => rfl
  | cons piece rest ih =>
      have bound : (piece.textWith "?").toList.count '?' =
          (piece.textWith "").toList.count '?' +
            piece.value?.toList.length := by
        cases piece <;> simp [textWith, value?]
      simp only [written, String.toList_append, List.count_append,
        carried_cons, List.length_append, bound, ih]
      omega

theorem flaws_cons_of_none {piece : Piece} (sound : piece.flaw? = none)
    (rest : List Piece) : flaws (piece :: rest) = flaws rest :=
  List.filterMap_cons_none sound

theorem beforeFlaw_cons_of_none {piece : Piece} (sound : piece.flaw? = none)
    (rest : List Piece) :
    beforeFlaw (piece :: rest) = piece :: beforeFlaw rest := by
  simp [beforeFlaw, sound]

theorem beforeFlaw_eq_self {pieces : List Piece} (sound : flaws pieces = []) :
    beforeFlaw pieces = pieces := by
  induction pieces with
  | nil => rfl
  | cons piece rest ih =>
      have noFlaw : piece.flaw? = none :=
        List.filterMap_eq_nil_iff.mp sound piece List.mem_cons_self
      rw [flaws_cons_of_none noFlaw] at sound
      rw [beforeFlaw_cons_of_none noFlaw, ih sound]

theorem runWith_write {piece : Piece} (sound : piece.flaw? = none)
    (binder : Binder) :
    piece.write.runWith binder =
      (.ok (piece.textWith binder.placeholder),
        ⟨binder.placeholder, binder.params ++ piece.value?.toList⟩) := by
  cases piece with
  | plain | constant => simp [write, textWith, value?]
  | mark value => simp [textWith, value?]
  | flaw cause => cases sound

/-- Writing stops at the first flaw, with the values bound that are carried by
the pieces before it. -/
theorem runWith_writeAll (binder : Binder) (pieces : List Piece) :
    (writeAll pieces).runWith binder =
      ((match (flaws pieces).head? with
        | none => .ok (written binder.placeholder pieces)
        | some cause => .error cause),
        ⟨binder.placeholder,
          binder.params ++ carried (beforeFlaw pieces)⟩) := by
  induction pieces generalizing binder with
  | nil => simp [writeAll, written, carried, flaws, beforeFlaw]
  | cons piece rest ih =>
      cases found : piece.flaw? with
      | none =>
          rw [writeAll, Build.runWith_bind, runWith_write found,
            flaws_cons_of_none found, beforeFlaw_cons_of_none found,
            carried_cons, written]
          simp only [Build.runWith_bind, ih, List.append_assoc]
          cases (flaws rest).head? <;> rfl
      | some cause =>
          cases piece with
          | flaw => simp [writeAll, flaws, flaw?, carried, beforeFlaw]
          | _ => cases found

theorem runWith_writeAll_of_sound {pieces : List Piece}
    (sound : flaws pieces = []) (binder : Binder) :
    (writeAll pieces).runWith binder =
      (.ok (written binder.placeholder pieces),
        ⟨binder.placeholder, binder.params ++ carried pieces⟩) := by
  rw [runWith_writeAll, sound, beforeFlaw_eq_self sound]
  rfl

theorem runWith_writeAll_eq_ok {binder binder' : Binder}
    {pieces : List Piece} {text : String}
    (done : (writeAll pieces).runWith binder = (.ok text, binder')) :
    flaws pieces = [] ∧ text = written binder.placeholder pieces ∧
      binder'.params = binder.params ++ carried pieces := by
  cases found : flaws pieces with
  | nil =>
      rw [runWith_writeAll_of_sound found] at done
      cases done
      exact ⟨rfl, rfl, rfl⟩
  | cons cause others =>
      rw [runWith_writeAll, found] at done
      cases done

end Piece

/-! ## Rendering writes the layout -/

theorem Build.markAll_eq (items : List Value) :
    markAll items =
      (items.map fun item => [Piece.mark item]).mapM Piece.writeAll := by
  induction items with
  | nil => rfl
  | cons item rest ih =>
      simp only [markAll, List.map_cons, List.mapM_cons,
        Piece.writeAll_singleton, Piece.write_mark, ih]

theorem Build.writeConstants_eq (items : List Value) :
    writeConstants items =
      (items.map fun item => [Piece.ofConstant item]).mapM
        Piece.writeAll := by
  induction items with
  | nil => rfl
  | cons item rest ih =>
      simp only [writeConstants, List.map_cons, List.mapM_cons,
        Piece.writeAll_singleton, Piece.write_ofConstant, ih]

namespace Expr

private theorem renderAll_eq_of_forall {operands : List Expr}
    (same : ∀ operand ∈ operands,
      operand.render = Piece.writeAll operand.layout) :
    renderAll operands = (operands.map layout).mapM Piece.writeAll := by
  induction operands with
  | nil => simp only [renderAll, List.map_nil, List.mapM_nil]
  | cons operand rest ih =>
      have further := ih fun other member =>
        same other (List.mem_cons_of_mem operand member)
      simp only [renderAll, List.map_cons, List.mapM_cons, further,
        same operand List.mem_cons_self]

theorem render_eq_writeAll (operand : Expr) :
    operand.render = Piece.writeAll operand.layout := by
  induction operand using partInduction with
  | whole operand ih =>
  cases operand with
  | column | literal | param | keywords | or | not | nullCheck =>
      simp only [render, layout, Piece.writeAll_singleton, Piece.write_ofText,
        Piece.write_ofConstant, Piece.write_mark, Piece.write_flaw]
  | call function args =>
      have args : renderAll args = _ := renderAll_eq_of_forall ih
      simp only [render, layout, args, Piece.writeAll, Piece.writeAll_append,
        Piece.writeAll_separated, Piece.write_plain, pure_bind, bind_assoc,
        String.append_assoc, String.append_empty]
  | cast operand typeName =>
      have operand := ih operand List.mem_cons_self
      simp only [render, layout, operand, Piece.writeAll,
        Piece.writeAll_append, Piece.write_plain, Piece.write_ofText,
        pure_bind, bind_assoc, String.append_assoc, String.append_empty]
  | blob operand typeName =>
      have operand := ih operand List.mem_cons_self
      simp only [render, layout, operand, Piece.writeAll,
        Piece.writeAll_append, Piece.write_plain, Piece.write_ofText,
        pure_bind, bind_assoc, String.append_assoc, String.append_empty]
  | fragment template args =>
      rw [render, layout_fragment, Piece.writeAll_filled]
      intro arg member
      rw [Value.renderArgument, Value.argumentLayout]
      split <;> rename_i read <;> rw [read]
      · exact ih _ (mem_parts_fragment member read)
      · rw [Piece.writeAll_singleton, Piece.write_flaw]
  | compare comparison left right =>
      have left := ih left List.mem_cons_self
      have right := ih right (List.mem_cons_of_mem _ List.mem_cons_self)
      simp only [render, layout, left, right, Piece.writeAll,
        Piece.writeAll_append, Piece.write_plain, pure_bind, bind_assoc,
        String.append_assoc]
  | and first rest =>
      have head := ih first List.mem_cons_self
      have tail := renderAll_eq_of_forall fun operand member =>
        ih operand (List.mem_cons_of_mem first member)
      simp only [render, layout, head, tail, Piece.writeAll_separated,
        List.mapM_cons, pure_bind, bind_assoc]
  | membership operand values =>
      rw [render, layout]
      cases found : Membership.ofValues values with
      | empty => rw [Piece.writeAll_singleton, Piece.write_flaw]
      | bound items =>
          have operand := ih operand (by simp [parts, found])
          simp only [Piece.writeAll_listed, operand, Build.markAll_eq]
      | inlined items =>
          have operand := ih operand (by simp [parts, found])
          simp only [Piece.writeAll_listed, operand, Build.writeConstants_eq]
      | each =>
          have operand := ih operand (by simp [parts, found])
          have values : renderAll values = _ :=
            renderAll_eq_of_forall fun value member =>
              ih value (by simp [parts, found, member])
          simp only [Piece.writeAll_listed, operand, values]

theorem renderAll_eq (operands : List Expr) :
    renderAll operands = (operands.map layout).mapM Piece.writeAll :=
  renderAll_eq_of_forall fun operand _ => render_eq_writeAll operand

end Expr

end StructuredCql
