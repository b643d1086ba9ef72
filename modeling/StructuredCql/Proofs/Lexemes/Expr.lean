import StructuredCql.Proofs.Flaws
import StructuredCql.Proofs.Lexemes

/-!
# Constants and lexemes of expressions

The constants of an expression are the values that are written into the text
for it.  A layout spells a list of values if it is quiet and its constants are
these values, provided that it has no flaw.  Without fragments the layout of
an expression spells the constants of the expression.
-/

namespace StructuredCql

namespace Piece

structure Spells (pieces : List Piece) (values : List Value) : Prop
    extends Quiet pieces where
  constants_eq : flaws pieces = [] → constants pieces = values

namespace Spells

theorem nil : Spells [] [] := ⟨⟨by simp, .nil⟩, fun _ => rfl⟩

theorem mark (value : Value) : Spells [.mark value] [] :=
  ⟨⟨by simp [IsQuiet], .singleton _⟩, fun _ => rfl⟩

theorem flaw (cause : CompileError) (values : List Value) :
    Spells [.flaw cause] values :=
  ⟨⟨by simp [IsQuiet], .singleton _⟩, fun sound => by cases sound⟩

theorem ofConstant (value : Value) : Spells [ofConstant value] [value] := by
  unfold Piece.ofConstant
  split
  · next written =>
    exact ⟨⟨by simpa [IsQuiet] using written, .singleton _⟩, fun _ => rfl⟩
  · exact flaw _ _

theorem append {first second : List Piece} {before after : List Value}
    (left : Spells first before) (right : Spells second after)
    (parted : ∀ piece ∈ second.head?, ¬ piece.isConstant) :
    Spells (first ++ second) (before ++ after) := by
  refine ⟨⟨?_, ?_⟩, ?_⟩
  · intro piece member
    rcases List.mem_append.mp member with member | member
    · exact left.quiet piece member
    · exact right.quiet piece member
  · apply left.parted.append right.parted
    intro _ _ next isHead both
    exact parted next isHead both.2
  · intro sound
    rw [flaws_append, List.append_eq_nil_iff] at sound
    rw [constants, List.filterMap_append, ← constants, ← constants,
      left.constants_eq sound.1, right.constants_eq sound.2]

theorem plain_cons {text : String} {rest : List Piece} {values : List Value}
    (quiet : QuietText text.toList) (right : Spells rest values) :
    Spells (.plain text :: rest) values :=
  ⟨right.toQuiet.cons quiet (by simp [isConstant]), right.constants_eq⟩

theorem flaw_cons {cause : CompileError} {rest : List Piece}
    {values : List Value} (right : Spells rest values) :
    Spells (.flaw cause :: rest) values :=
  ⟨right.toQuiet.cons trivial (by simp [isConstant]),
    fun sound => by cases sound⟩

theorem append_plain_cons {first rest : List Piece} {text : String}
    {before after : List Value} (left : Spells first before)
    (quiet : QuietText text.toList) (right : Spells rest after) :
    Spells (first ++ .plain text :: rest) (before ++ after) :=
  left.append (plain_cons quiet right) (by simp [isConstant])

theorem ofText_cons {outcome : Except CompileError String}
    {rest : List Piece} {values : List Value}
    (quiet : ∀ text, outcome = .ok text → QuietText text.toList)
    (right : Spells rest values) : Spells (ofText outcome :: rest) values := by
  cases outcome with
  | ok text => exact plain_cons (quiet text rfl) right
  | error cause => exact flaw_cons right

end Spells

inductive SpellAll : List (List Piece) → List Value → Prop
  | nil : SpellAll [] []
  | cons {pieces : List Piece} {layouts : List (List Piece)}
      {before after : List Value} :
      Spells pieces before → SpellAll layouts after →
      SpellAll (pieces :: layouts) (before ++ after)

namespace SpellAll

theorem append {first second : List (List Piece)} {before after : List Value}
    (left : SpellAll first before) (right : SpellAll second after) :
    SpellAll (first ++ second) (before ++ after) := by
  induction left with
  | nil => exact right
  | cons head _ ih =>
      rw [List.append_assoc]
      exact .cons head ih

theorem map {layout : α → List Piece} {values : α → List Value}
    {items : List α}
    (all : ∀ item ∈ items, Spells (layout item) (values item)) :
    SpellAll (items.map layout) (items.flatMap values) := by
  induction items with
  | nil => exact .nil
  | cons item rest ih =>
      exact .cons (all item List.mem_cons_self) (ih fun other member =>
        all other (List.mem_cons_of_mem item member))

theorem map_nil {layout : α → List Piece} {items : List α}
    (all : ∀ item ∈ items, Spells (layout item) []) :
    SpellAll (items.map layout) [] := by
  induction items with
  | nil => exact .nil
  | cons item rest ih =>
      exact .cons (all item List.mem_cons_self) (ih fun other member =>
        all other (List.mem_cons_of_mem item member))

theorem separated {separator : String} {layouts : List (List Piece)}
    {values : List Value} (all : SpellAll layouts values)
    (quiet : QuietText separator.toList) :
    Spells (separated separator layouts) values := by
  induction all with
  | nil => exact .nil
  | cons head tail ih =>
      cases tail with
      | nil => simpa [Piece.separated] using head
      | cons => exact head.append_plain_cons quiet ih

theorem listed {operand : List Piece} {items : List (List Piece)}
    {before after : List Value} (all : SpellAll items after)
    (left : Spells operand before) :
    Spells (listed operand items) (before ++ after) := by
  have comma : QuietText ",".toList := .of_isCalm rfl
  have closing : QuietText ")".toList := .of_isCalm rfl
  refine left.append_plain_cons (.of_isCalm rfl) ?_
  simpa using (all.separated comma).append_plain_cons closing .nil

end SpellAll

end Piece

namespace Expr

def ownConstants : Expr → List Value
  | .literal value => [value]
  | .membership _ values =>
      match Membership.ofValues values with
      | .inlined items => items
      | _ => []
  | _ => []

/-- The values that are written into the text, from the left to the right. -/
def constants (operand : Expr) : List Value :=
  (operand.parts.attach.flatMap fun part => constants part.1) ++
    operand.ownConstants
termination_by operand.weight
decreasing_by exact weight_lt_of_mem_parts part.2

theorem constants_eq (operand : Expr) :
    operand.constants =
      operand.parts.flatMap constants ++ operand.ownConstants := by
  rw [constants, List.flatMap_def, List.attach_map_val, List.flatMap_def]

def isFragment : Expr → Bool
  | .fragment _ _ | .keywords _ _ => true
  | _ => false

inductive FragmentFree : Expr → Prop
  | intro {operand : Expr} :
      operand.isFragment = false →
      (∀ part ∈ operand.parts, FragmentFree part) → FragmentFree operand

theorem spells_layout {operand : Expr} (free : operand.FragmentFree) :
    Piece.Spells operand.layout operand.constants := by
  induction free with
  | @intro operand noFragment _ ih =>
  have closing : QuietText ")".toList := .of_isCalm rfl
  have separator : QuietText ", ".toList := .of_isCalm rfl
  rw [constants_eq]
  cases operand with
  | column name =>
      rw [layout]
      exact .ofText_cons (fun _ => .of_columnName) .nil
  | literal value =>
      rw [layout]
      exact .ofConstant value
  | param value =>
      rw [layout]
      exact .mark value
  | keywords | or | not | nullCheck =>
      rw [layout]
      exact .flaw _ _
  | fragment => cases noFragment
  | call function args =>
      have name : QuietText (function.name ++ "(").toList := by
        cases function <;> exact .of_isCalm rfl
      have args := (Piece.SpellAll.map ih).separated separator
      rw [layout]
      exact .plain_cons name (args.append_plain_cons closing .nil)
  | cast operand typeName =>
      have operand := ih operand List.mem_cons_self
      have typeText : Piece.Spells
          [.ofText (checkedName .identifier typeName), .plain ")"] [] :=
        .ofText_cons (fun _ => .of_checkedName) (.plain_cons closing .nil)
      rw [layout]
      refine .plain_cons (.of_isCalm rfl) ?_
      have between : QuietText " as ".toList := .of_isCalm rfl
      simpa [parts, ownConstants] using
        operand.append_plain_cons between typeText
  | blob operand typeName =>
      have operand := ih operand List.mem_cons_self
      rw [layout]
      refine .ofText_cons (fun _ => .of_blobFunction) ?_
      refine .plain_cons (.of_isCalm rfl) ?_
      simpa [parts, ownConstants] using
        operand.append_plain_cons closing .nil
  | compare comparison left right =>
      have left := ih left List.mem_cons_self
      have right := ih right (List.mem_cons_of_mem _ List.mem_cons_self)
      have symbol : QuietText (" " ++ comparison.symbol ++ " ").toList := by
        cases comparison <;> exact .of_isCalm rfl
      rw [layout]
      simpa [parts, ownConstants] using left.append_plain_cons symbol right
  | and first rest =>
      rw [layout, ← List.map_cons]
      have connective : QuietText " AND ".toList := .of_isCalm rfl
      simpa [parts, ownConstants] using
        (Piece.SpellAll.map ih).separated connective
  | membership operand values =>
      rw [layout, ownConstants]
      cases found : Membership.ofValues values with
      | empty => exact .flaw _ _
      | bound items =>
          have operand := ih operand (by simp [parts, found])
          have marks := Piece.SpellAll.map_nil fun item (_ : item ∈ items) =>
            Piece.Spells.mark item
          simpa [parts, found] using marks.listed operand
      | inlined items =>
          have operand := ih operand (by simp [parts, found])
          have constants := Piece.SpellAll.map fun item (_ : item ∈ items) =>
            Piece.Spells.ofConstant item
          simpa [parts, found] using constants.listed operand
      | each =>
          have operand := ih operand (by simp [parts, found])
          have values := Piece.SpellAll.map
            fun value (member : value ∈ values) =>
              ih value (by simp [parts, found, member])
          simpa [parts, found] using values.listed operand

end Expr

end StructuredCql
