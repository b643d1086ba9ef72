import StructuredCql.Proofs.Grammar.Filter
import StructuredCql.Proofs.Layout.Query
import StructuredCql.Proofs.Lexemes.Expr
import StructuredCql.Proofs.Names

/-!
# Names in expressions

A text is composed of names, and of what is written between them: texts that
never change, constants, counts and hints.  Whatever is taken from a caller
and is none of the others has to be a name.  The main statement is that the
text of an expression without fragments is composed of the names in the
expression, in their order.
-/

namespace StructuredCql

open StructuredCql.Text

/-- The texts that stand in statements no matter what they are made from. -/
def fixedTexts : List String :=
  ["SELECT *", "SELECT ", "FROM ", "WHERE ", "GROUP BY ", "ORDER BY ",
    "LIMIT ", "UPDATE ", "DELETE FROM ", "TRUNCATE ", "INSERT INTO ",
    " SET ", " WHERE ", " AND ", " IN (", " DESC", ") VALUES (", "cast(",
    " as ", "AsBlob", " ", ".", ",", ", ", " = ", " + ", "?", "(", " (",
    ")"] ++
  Comparison.all.map (fun comparison => " " ++ comparison.symbol ++ " ") ++
  CqlFunction.all.map (fun function => function.name ++ "(") ++
  KeyKind.all.map (fun kind => kind.generator.name ++ "()") ++
  [Guard.exists, Guard.notExists].map fun guard => " " ++ guard.clause

/-- A text with the names in it, from the left to the right. -/
inductive Composition : String → List String → Prop
  | nil : Composition "" []
  | name {name rest : String} {names : List String} :
      Nameable name.toList → Composition rest names →
      Composition (name ++ rest) (name :: names)
  | fixed {text rest : String} {names : List String} :
      text ∈ fixedTexts → Composition rest names →
      Composition (text ++ rest) names
  | constant {value : Value} {text rest : String} {names : List String} :
      value.constant = .ok text → Composition rest names →
      Composition (text ++ rest) names
  | count (number : Nat) {rest : String} {names : List String} :
      Composition rest names → Composition (toString number ++ rest) names
  | hint {hint rest : String} {names : List String} :
      isFilteringHint hint.toList → Composition rest names →
      Composition (hint ++ rest) names

namespace Composition

theorem ofName {name : String} (nameable : Nameable name.toList) :
    Composition name [name] := by
  simpa using Composition.name nameable .nil

theorem ofFixed {text : String} (listed : text ∈ fixedTexts) :
    Composition text [] := by
  simpa using Composition.fixed listed .nil

theorem ofConstant {value : Value} {text : String}
    (written : value.constant = .ok text) : Composition text [] := by
  simpa using Composition.constant written .nil

theorem append {first second : String} {before after : List String}
    (left : Composition first before) (right : Composition second after) :
    Composition (first ++ second) (before ++ after) := by
  induction left with
  | nil => simpa using right
  | name nameable _ ih =>
      rw [String.append_assoc]
      exact .name nameable ih
  | fixed listed _ ih =>
      rw [String.append_assoc]
      exact .fixed listed ih
  | constant written _ ih =>
      rw [String.append_assoc]
      exact .constant written ih
  | count number _ ih =>
      rw [String.append_assoc]
      exact .count number ih
  | hint accepted _ ih =>
      rw [String.append_assoc]
      exact .hint accepted ih

theorem nameable {text : String} {names : List String}
    (composition : Composition text names) :
    ∀ name ∈ names, Nameable name.toList := by
  induction composition with
  | nil => simp
  | name nameable _ ih => exact List.forall_mem_cons.mpr ⟨nameable, ih⟩
  | fixed _ _ ih | constant _ _ ih | count _ _ ih | hint _ _ ih => exact ih

theorem of_columnName {name text : String}
    (written : columnName name = .ok text) :
    Composition text [unqualified name] := by
  rw [← eq_unqualified_of_columnName written]
  rcases columnName_eq_ok_iff.mp written with
    ⟨nameable, rfl⟩ | ⟨_, _, _, _, nameable, rfl⟩ <;> exact .ofName nameable

theorem of_checkedName {role : NameRole} {name text : String}
    (written : checkedName role name = .ok text) :
    Composition text [name] := by
  obtain ⟨nameable, rfl⟩ := checkedName_eq_ok_iff.mp written
  exact .ofName nameable

theorem of_blobFunction {typeName text : String}
    (written : blobFunction typeName = .ok text) :
    Composition text [typeName] := by
  obtain ⟨nameable, rfl⟩ := blobFunction_eq_ok_iff.mp written
  exact (ofName nameable).append (.ofFixed (by decide))

end Composition

/-! ## Layouts -/

namespace Piece

/-- A layout without flaws is written as a text with these names. -/
def Composes (pieces : List Piece) (names : List String) : Prop :=
  flaws pieces = [] → Composition (written "?" pieces) names

namespace Composes

theorem nil : Composes [] [] := fun _ => .nil

theorem append {first second : List Piece} {before after : List String}
    (left : Composes first before) (right : Composes second after) :
    Composes (first ++ second) (before ++ after) := by
  intro sound
  rw [flaws_append, List.append_eq_nil_iff] at sound
  rw [written_append]
  exact (left sound.1).append (right sound.2)

theorem flaw_cons {cause : CompileError} {rest : List Piece}
    {names : List String} : Composes (.flaw cause :: rest) names :=
  fun sound => by cases sound

theorem text_cons {text : String} {rest : List Piece}
    {before after : List String} (left : Composition text before)
    (right : Composes rest after) :
    Composes (.plain text :: rest) (before ++ after) :=
  fun sound => left.append (right sound)

theorem plain_cons {text : String} {rest : List Piece} {names : List String}
    (listed : text ∈ fixedTexts) (right : Composes rest names) :
    Composes (.plain text :: rest) names :=
  text_cons (.ofFixed listed) right

theorem mark (value : Value) : Composes [.mark value] [] :=
  fun _ => .fixed (by decide : "?" ∈ fixedTexts) .nil

theorem ofConstant (value : Value) : Composes [ofConstant value] [] := by
  unfold Piece.ofConstant
  split
  · next text isConstant =>
    exact fun _ => (Composition.ofConstant isConstant).append .nil
  · exact flaw_cons

theorem ofText_cons {outcome : Except CompileError String}
    {rest : List Piece} {before after : List String}
    (left : ∀ text, outcome = .ok text → Composition text before)
    (right : Composes rest after) :
    Composes (ofText outcome :: rest) (before ++ after) := by
  cases outcome with
  | ok text => exact text_cons (left text rfl) right
  | error cause => exact flaw_cons

theorem append_plain_cons {first rest : List Piece} {text : String}
    {before after : List String} (left : Composes first before)
    (listed : text ∈ fixedTexts) (right : Composes rest after) :
    Composes (first ++ .plain text :: rest) (before ++ after) :=
  left.append (plain_cons listed right)

theorem separated {separator : String} {layouts : List (List Piece)}
    {names : List (List String)} (listed : separator ∈ fixedTexts)
    (all : List.Forall₂ Composes layouts names) :
    Composes (separated separator layouts) names.flatten := by
  induction all with
  | nil => exact nil
  | cons head tail ih =>
      cases tail with
      | nil => simpa [Piece.separated] using head
      | cons => exact head.append_plain_cons listed ih

theorem forall₂_map {layout : α → List Piece} {names : α → List String}
    {items : List α}
    (all : ∀ item ∈ items, Composes (layout item) (names item)) :
    List.Forall₂ Composes (items.map layout) (items.map names) := by
  rw [List.forall₂_map_left_iff, List.forall₂_map_right_iff,
    List.forall₂_same]
  exact all

theorem separated_map {separator : String} {layout : α → List Piece}
    {names : α → List String} {items : List α}
    (listed : separator ∈ fixedTexts)
    (all : ∀ item ∈ items, Composes (layout item) (names item)) :
    Composes (Piece.separated separator (items.map layout))
      (items.flatMap names) :=
  separated listed (forall₂_map all)

theorem separated_map_nil {separator : String} {layout : α → List Piece}
    {items : List α} (listed : separator ∈ fixedTexts)
    (all : ∀ item ∈ items, Composes (layout item) []) :
    Composes (Piece.separated separator (items.map layout)) [] := by
  have noNames : items.flatMap (fun _ => ([] : List String)) = [] := by simp
  simpa only [noNames] using separated_map listed all

theorem listed {operand : List Piece} {items : List (List Piece)}
    {before after : List String} (left : Composes operand before)
    (right : Composes (Piece.separated "," items) after) :
    Composes (Piece.listed operand items) (before ++ after) := by
  refine left.append_plain_cons (by decide) ?_
  simpa using right.append_plain_cons (by decide : ")" ∈ fixedTexts) .nil

end Composes

end Piece

namespace Expr

def leadingNames : Expr → List String
  | .column name => [unqualified name]
  | .blob _ typeName => [typeName]
  | _ => []

def trailingNames : Expr → List String
  | .cast _ typeName => [typeName]
  | _ => []

/-- The names that are written for an expression, from the left to the right.
No fragment is looked into for names. -/
def names (operand : Expr) : List String :=
  operand.leadingNames ++
    (operand.parts.attach.flatMap fun part => names part.1) ++
    operand.trailingNames
termination_by operand.weight
decreasing_by exact weight_lt_of_mem_parts part.2

theorem names_eq (operand : Expr) :
    operand.names = operand.leadingNames ++ operand.parts.flatMap names ++
      operand.trailingNames := by
  rw [names, List.flatMap_def, List.attach_map_val, List.flatMap_def]

theorem composes_layout {operand : Expr} (free : operand.FragmentFree) :
    Piece.Composes operand.layout operand.names := by
  induction free with
  | @intro operand noFragment _ ih =>
  rw [names_eq]
  cases operand with
  | column name =>
      rw [layout]
      exact .ofText_cons (fun _ => .of_columnName) .nil
  | literal value =>
      rw [layout]
      exact .ofConstant value
  | param value =>
      rw [layout]
      exact .mark value
  | keywords | or | not | nullCheck =>
      rw [layout]
      exact .flaw_cons
  | fragment => cases noFragment
  | call function args =>
      have name : function.name ++ "(" ∈ fixedTexts := by
        cases function <;> decide
      have args := Piece.Composes.separated_map
        (by decide : ", " ∈ fixedTexts) ih
      rw [layout]
      exact .plain_cons name (args.append_plain_cons (by decide) .nil)
  | cast operand typeName =>
      have operand := ih operand List.mem_cons_self
      have typeText : Piece.Composes
          [.ofText (checkedName .identifier typeName), .plain ")"] _ :=
        .ofText_cons (fun _ => .of_checkedName)
          (.plain_cons (by decide) .nil)
      rw [layout]
      refine .plain_cons (by decide) ?_
      simpa [parts, leadingNames, trailingNames] using
        operand.append_plain_cons (by decide) typeText
  | blob operand typeName =>
      have operand := ih operand List.mem_cons_self
      have closed := operand.append_plain_cons
        (by decide : ")" ∈ fixedTexts) .nil
      have whole : Piece.Composes (.ofText (blobFunction typeName) ::
          .plain "(" :: _) _ :=
        .ofText_cons (fun _ => .of_blobFunction)
          (.plain_cons (by decide) closed)
      rw [layout]
      simpa [parts, leadingNames, trailingNames] using whole
  | compare comparison left right =>
      have left := ih left List.mem_cons_self
      have right := ih right (List.mem_cons_of_mem _ List.mem_cons_self)
      have symbol : " " ++ comparison.symbol ++ " " ∈ fixedTexts := by
        cases comparison <;> decide
      rw [layout]
      simpa [parts, leadingNames, trailingNames] using
        left.append_plain_cons symbol right
  | and first rest =>
      have conjuncts := Piece.Composes.separated_map
        (by decide : " AND " ∈ fixedTexts) ih
      rw [layout]
      simpa [parts, leadingNames, trailingNames] using conjuncts
  | membership operand values =>
      rw [layout]
      cases found : Membership.ofValues values with
      | empty => exact .flaw_cons
      | bound items =>
          have operand := ih operand (by simp [parts, found])
          have marks := Piece.Composes.separated_map_nil
            (by decide : "," ∈ fixedTexts) fun item (_ : item ∈ items) =>
              .mark item
          simpa [parts, leadingNames, trailingNames, found] using
            operand.listed marks
      | inlined items =>
          have operand := ih operand (by simp [parts, found])
          have constants := Piece.Composes.separated_map_nil
            (by decide : "," ∈ fixedTexts) fun item (_ : item ∈ items) =>
              .ofConstant item
          simpa [parts, leadingNames, trailingNames, found] using
            operand.listed constants
      | each =>
          have operand := ih operand (by simp [parts, found])
          have values := Piece.Composes.separated_map
            (by decide : "," ∈ fixedTexts)
            fun value (member : value ∈ values) =>
              ih value (by simp [parts, found, member])
          simpa [parts, leadingNames, trailingNames, found] using
            operand.listed values

end Expr

end StructuredCql
