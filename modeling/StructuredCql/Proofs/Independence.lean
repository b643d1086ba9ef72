import Mathlib.Data.List.Forall2
import StructuredCql.Proofs.Layout.Query
import StructuredCql.Proofs.Outcomes

/-!
# Statements and bound values

Two runs that differ only in values to be bound go the same way: both fail, or
both succeed with related results.  Here are the outcomes and the pieces of two
such runs.  The relation between the bound values is left open.  Whatever pairs
the values that take the same place in both runs may be put for it, so results
that it relates come from the same places.
-/

namespace StructuredCql

/-! ## Readings -/

namespace SameOutcome

variable {α β γ δ : Type} {related : α → β → Prop} {further : γ → δ → Prop}
  {left : Reading α} {right : Reading β}

theorem under (same : SameOutcome related left right) (step : Step) :
    SameOutcome related (left.under step) (right.under step) := by
  obtain ⟨_, _, rfl, rfl, alike⟩ | ⟨_, _, rfl, rfl⟩ := same.cases
  · exact alike
  · trivial

theorem both {first : Reading γ} {second : Reading δ}
    (same : SameOutcome related left right)
    (sameFurther : SameOutcome further first second) :
    SameOutcome (fun result other => related result.1 other.1 ∧
        further result.2 other.2)
      (left.both first) (right.both second) := by
  obtain ⟨_, _, rfl, rfl, alike⟩ | ⟨_, _, rfl, rfl⟩ := same.cases
  · obtain ⟨_, _, rfl, rfl, alikeFurther⟩ | ⟨_, _, rfl, rfl⟩ :=
      sameFurther.cases
    · exact ⟨alike, alikeFurther⟩
    · trivial
  · obtain ⟨_, _, rfl, rfl, _⟩ | ⟨_, _, rfl, rfl⟩ := sameFurther.cases
    · trivial
    · trivial

theorem items {readings : List (Reading α)} {others : List (Reading β)}
    (each : List.Forall₂ (SameOutcome related) readings others)
    (position : Nat) :
    SameOutcome (List.Forall₂ related) (Reading.items position readings)
      (Reading.items position others) := by
  induction each generalizing position with
  | nil => exact .nil
  | cons first _ ih =>
      refine ((first.under _).both (ih _)).map ?_
      rintro _ _ ⟨firstAlike, restAlike⟩
      exact .cons firstAlike restAlike

end SameOutcome

/-! ## Pieces -/

/-- Pieces that differ at most in the value of a mark, or are both flaws. -/
inductive Piece.Alike (related : Value → Value → Prop) : Piece → Piece → Prop
  | plain (text : String) : Alike related (.plain text) (.plain text)
  | constant (value : Value) (text : String) :
      Alike related (.constant value text) (.constant value text)
  | mark {value other : Value} (same : related value other) :
      Alike related (.mark value) (.mark other)
  | flaw (cause other : CompileError) :
      Alike related (.flaw cause) (.flaw other)

abbrev SameLayout (related : Value → Value → Prop) :
    List Piece → List Piece → Prop :=
  List.Forall₂ (Piece.Alike related)

namespace SameLayout

open Piece

variable {related : Value → Value → Prop} {left right : List Piece}

theorem append {first second : List Piece}
    (same : SameLayout related left right)
    (sameFurther : SameLayout related first second) :
    SameLayout related (left ++ first) (right ++ second) :=
  List.rel_append same sameFurther

theorem refl_of_carried (unbound : carried left = []) :
    SameLayout related left left := by
  refine List.forall₂_same.mpr fun piece member => ?_
  cases piece with
  | plain => exact .plain _
  | constant => exact .constant _ _
  | mark value =>
      have absent := List.filterMap_eq_nil_iff.mp unbound _ member
      cases absent
  | flaw => exact .flaw _ _

theorem separated (separator : String) {layouts others : List (List Piece)}
    (each : List.Forall₂ (SameLayout related) layouts others) :
    SameLayout related (Piece.separated separator layouts)
      (Piece.separated separator others) := by
  induction each with
  | nil => exact .nil
  | cons first rest ih =>
      cases rest with
      | nil => exact first
      | cons next rest => exact first.append (.cons (.plain separator) ih)

theorem listed {layouts others : List (List Piece)}
    (operand : SameLayout related left right)
    (each : List.Forall₂ (SameLayout related) layouts others) :
    SameLayout related (Piece.listed left layouts)
      (Piece.listed right others) :=
  operand.append (.cons (.plain _)
    ((separated "," each).append (.cons (.plain _) .nil)))

theorem filled (template : String) (count : Nat)
    (pieces : List TemplatePiece) {layouts others : List (List Piece)}
    (each : List.Forall₂ (SameLayout related) layouts others) :
    SameLayout related (Piece.filled template count pieces layouts)
      (Piece.filled template count pieces others) := by
  induction pieces generalizing layouts others with
  | nil =>
      cases each with
      | nil => exact .nil
      | cons => exact .cons (.flaw _ _) .nil
  | cons piece pieces ih =>
      cases piece with
      | plain => exact .cons (.plain _) (ih each)
      | slot =>
          cases each with
          | nil => exact .cons (.flaw _ _) (ih .nil)
          | cons first rest => exact first.append (ih rest)

theorem ofText (outcome : Except CompileError String) :
    SameLayout related [Piece.ofText outcome] [Piece.ofText outcome] :=
  refl_of_carried (by cases outcome <;> rfl)

theorem ofConstant (value : Value) :
    SameLayout related [Piece.ofConstant value] [Piece.ofConstant value] := by
  apply refl_of_carried
  rw [Piece.ofConstant]
  cases value.constant <;> rfl

theorem flaws_eq_nil_iff (same : SameLayout related left right) :
    flaws left = [] ↔ flaws right = [] := by
  induction same with
  | nil => exact Iff.rfl
  | cons first _ ih =>
      cases first <;> simp_all [flaws, flaw?]

theorem written_eq (same : SameLayout related left right)
    (placeholder : String) :
    written placeholder left = written placeholder right := by
  induction same with
  | nil => rfl
  | cons first _ ih => cases first <;> simp [written, textWith, ih]

theorem carried_alike (same : SameLayout related left right) :
    List.Forall₂ related (carried left) (carried right) := by
  induction same with
  | nil => exact .nil
  | cons first _ ih =>
      rw [carried_cons, carried_cons]
      cases first with
      | mark held => exact .cons held ih
      | _ => exact ih

end SameLayout

/-! ## Expressions -/

/-- The values of a parameter.  A list that is the only value of a membership
is written item by item, so it has to have as many items in both runs. -/
inductive Held (related : Value → Value → Prop) : Bool → Value → Value → Prop
  | bound {value other : Value} (same : related value other) :
      Held related false value other
  | single {value other : Value} (noItems : value.items? = none)
      (otherNoItems : other.items? = none) (same : related value other) :
      Held related true value other
  | items {value other : Value} {items others : List Value}
      (listed : value.items? = some items)
      (otherListed : other.items? = some others)
      (each : List.Forall₂ related items others) :
      Held related true value other

def Value.isPlain : Value → Bool
  | .list _ | .tuple _ | .mapping _ => false
  | .expr _ | .assignment _ | .orderItem _ _ => false
  | _ => true

/-- The keys whose values are not read like all others: a parameter, the data of
a literal, and a membership. -/
def specialKeys : List String := ["param", "value", "IN"]

mutual

/-- Expressions that differ only in what parameters hold.  The flag tells the
only value of a membership from all other expressions.  Fragments by keywords
are refused, so they may differ in all they hold. -/
inductive Expr.Alike (related : Value → Value → Prop) :
    Bool → Expr → Expr → Prop
  | column {alone : Bool} (name : String) :
      Expr.Alike related alone (.column name) (.column name)
  | literal {alone : Bool} (value : Value) :
      Expr.Alike related alone (.literal value) (.literal value)
  | param {alone : Bool} {value other : Value}
      (held : Held related alone value other) :
      Expr.Alike related alone (.param value) (.param other)
  | call {alone : Bool} {function : CqlFunction} {args others : List Expr}
      (each : Expr.ListAlike related args others) :
      Expr.Alike related alone (.call function args) (.call function others)
  | cast {alone : Bool} {operand other : Expr} {typeName : String}
      (operands : Expr.Alike related false operand other) :
      Expr.Alike related alone (.cast operand typeName) (.cast other typeName)
  | blob {alone : Bool} {operand other : Expr} {typeName : String}
      (operands : Expr.Alike related false operand other) :
      Expr.Alike related alone (.blob operand typeName) (.blob other typeName)
  | fragment {alone : Bool} {template : String} {args others : List Value}
      (each : Value.ListAlike related args others) :
      Expr.Alike related alone (.fragment template args)
        (.fragment template others)
  | keywords {alone : Bool} {entries further : List (String × Value)}
      {args others : List Value} :
      Expr.Alike related alone (.keywords entries args)
        (.keywords further others)
  | compare {alone : Bool} {comparison : Comparison}
      {left right otherLeft otherRight : Expr}
      (lefts : Expr.Alike related false left otherLeft)
      (rights : Expr.Alike related false right otherRight) :
      Expr.Alike related alone (.compare comparison left right)
        (.compare comparison otherLeft otherRight)
  | and {alone : Bool} {first otherFirst : Expr} {rest others : List Expr}
      (firsts : Expr.Alike related false first otherFirst)
      (each : Expr.ListAlike related rest others) :
      Expr.Alike related alone (.and first rest) (.and otherFirst others)
  | or {alone : Bool} {first otherFirst : Expr} {rest others : List Expr}
      (firsts : Expr.Alike related false first otherFirst)
      (each : Expr.ListAlike related rest others) :
      Expr.Alike related alone (.or first rest) (.or otherFirst others)
  | not {alone : Bool} {operand other : Expr}
      (operands : Expr.Alike related false operand other) :
      Expr.Alike related alone (.not operand) (.not other)
  | single {alone : Bool} {operand other value otherValue : Expr}
      (operands : Expr.Alike related false operand other)
      (values : Expr.Alike related true value otherValue) :
      Expr.Alike related alone (.membership operand [value])
        (.membership other [otherValue])
  | membership {alone : Bool} {operand other : Expr}
      {values others : List Expr}
      (operands : Expr.Alike related false operand other)
      (each : Expr.ListAlike related values others)
      (several : values.length ≠ 1) :
      Expr.Alike related alone (.membership operand values)
        (.membership other others)
  | nullCheck {alone : Bool} {operand other : Expr} {negated : Bool}
      (operands : Expr.Alike related false operand other) :
      Expr.Alike related alone (.nullCheck operand negated)
        (.nullCheck other negated)

inductive Expr.ListAlike (related : Value → Value → Prop) :
    List Expr → List Expr → Prop
  | nil : Expr.ListAlike related [] []
  | cons {operand other : Expr} {rest others : List Expr}
      (first : Expr.Alike related false operand other)
      (each : Expr.ListAlike related rest others) :
      Expr.ListAlike related (operand :: rest) (other :: others)

/-- Arguments of a fragment that differ only in what parameters hold, be they
parts of a query or data that parts of a query are read from. -/
inductive Value.Alike (related : Value → Value → Prop) :
    Bool → Value → Value → Prop
  | plain {alone : Bool} {value : Value} (isPlain : value.isPlain = true) :
      Value.Alike related alone value value
  | expr {alone : Bool} {operand other : Expr}
      (operands : Expr.Alike related alone operand other) :
      Value.Alike related alone (.expr operand) (.expr other)
  | set {alone : Bool} {column : String} {operand other : Expr}
      (operands : Expr.Alike related false operand other) :
      Value.Alike related alone (.assignment (.set column operand))
        (.assignment (.set column other))
  | increment {alone : Bool} {column : String} {operand other : Expr}
      (operands : Expr.Alike related false operand other) :
      Value.Alike related alone (.assignment (.increment column operand))
        (.assignment (.increment column other))
  | orderItem {alone : Bool} {operand other : Expr} {direction : Direction}
      (operands : Expr.Alike related false operand other) :
      Value.Alike related alone (.orderItem operand direction)
        (.orderItem other direction)
  | items {alone : Bool} {value other : Value} {items others : List Value}
      (listed : value.items? = some items)
      (otherListed : other.items? = some others)
      (each : Value.ListAlike related items others) :
      Value.Alike related alone value other
  | mapping {alone : Bool} {entries others : List (Value × Value)}
      (each : Value.EntriesAlike related alone entries others) :
      Value.Alike related alone (.mapping entries) (.mapping others)

inductive Value.ListAlike (related : Value → Value → Prop) :
    List Value → List Value → Prop
  | nil : Value.ListAlike related [] []
  | cons {value other : Value} {rest others : List Value}
      (first : Value.Alike related false value other)
      (each : Value.ListAlike related rest others) :
      Value.ListAlike related (value :: rest) (other :: others)

inductive Value.EntriesAlike (related : Value → Value → Prop) :
    Bool → List (Value × Value) → List (Value × Value) → Prop
  | nil {alone : Bool} : Value.EntriesAlike related alone [] []
  | param {alone : Bool} {key value other : Value}
      {rest others : List (Value × Value)}
      (named : key.letters? = some "param")
      (held : Held related alone value other)
      (each : Value.EntriesAlike related alone rest others) :
      Value.EntriesAlike related alone ((key, value) :: rest)
        ((key, other) :: others)
  | data {alone : Bool} {key value : Value}
      {rest others : List (Value × Value)}
      (named : key.letters? = some "value")
      (each : Value.EntriesAlike related alone rest others) :
      Value.EntriesAlike related alone ((key, value) :: rest)
        ((key, value) :: others)
  | single {alone : Bool}
      {key listed otherListed operand other value otherValue : Value}
      {rest others : List (Value × Value)}
      (named : key.letters? = some "IN")
      (items : listed.items? = some [operand, value])
      (otherItems : otherListed.items? = some [other, otherValue])
      (operands : Value.Alike related false operand other)
      (values : Value.Alike related true value otherValue)
      (each : Value.EntriesAlike related alone rest others) :
      Value.EntriesAlike related alone ((key, listed) :: rest)
        ((key, otherListed) :: others)
  | membership {alone : Bool} {key listed otherListed : Value}
      {rest others : List (Value × Value)}
      (named : key.letters? = some "IN")
      (several : ∀ operand value, listed.items? ≠ some [operand, value])
      (values : Value.Alike related false listed otherListed)
      (each : Value.EntriesAlike related alone rest others) :
      Value.EntriesAlike related alone ((key, listed) :: rest)
        ((key, otherListed) :: others)
  | other {alone : Bool} {key value other : Value}
      {rest others : List (Value × Value)}
      (named : ∀ name ∈ specialKeys, key.letters? ≠ some name)
      (values : Value.Alike related false value other)
      (each : Value.EntriesAlike related alone rest others) :
      Value.EntriesAlike related alone ((key, value) :: rest)
        ((key, other) :: others)

end

end StructuredCql
