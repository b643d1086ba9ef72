import StructuredCql.Proofs.Grammar.Filter
import StructuredCql.Proofs.Lexemes.Expr

/-!
# Grouping of relations

Relations are written without brackets around them, so an AND inside a
comparison or in front of an IN looks like one that joins relations of the
whole filter.  The words of a text, which are parted by the blanks outside all
brackets and literals, alternate between what is compared or joined and the
words that compare or join; the ANDs among the latter are the open junctions
of an expression.  The main statement is that the text of an expression tells
how many open junctions it has, and nothing more about where they are.
-/

namespace StructuredCql

open StructuredCql.Text

/-! ## Words -/

namespace Lexeme

def attach (text : List Lexeme) : List (List Lexeme) → List (List Lexeme)
  | [] => [text]
  | word :: rest => (text ++ word) :: rest

/-- The words of a text that begins inside so many brackets. -/
def words : Nat → List Lexeme → List (List Lexeme)
  | _, [] => [[]]
  | depth, lexeme :: rest =>
      if lexeme = .code '(' then attach [lexeme] (words (depth + 1) rest)
      else if lexeme = .code ')' then attach [lexeme] (words (depth - 1) rest)
      else if lexeme = .code ' ' ∧ depth = 0 then [] :: words 0 rest
      else attach [lexeme] (words depth rest)

def operators : List (List Lexeme) → List (List Lexeme)
  | _ :: operator :: rest => operator :: operators rest
  | _ => []

def junctions (text : List Lexeme) : Nat :=
  (operators (words 0 text)).count (codes "AND".toList)

theorem attach_attach (first second : List Lexeme)
    (words : List (List Lexeme)) :
    attach first (attach second words) = attach (first ++ second) words := by
  cases words <;> simp [attach]

theorem words_ne_nil (depth : Nat) (text : List Lexeme) :
    words depth text ≠ [] := by
  have attached (chunk : List Lexeme) (words : List (List Lexeme)) :
      attach chunk words ≠ [] := by
    cases words <;> simp [attach]
  cases text with
  | nil => simp [words]
  | cons lexeme rest =>
      rw [words]
      split_ifs
      · exact attached _ _
      · exact attached _ _
      · simp
      · exact attached _ _

/-- Text that belongs to one word, whatever stands behind it, and closes all
brackets that it opens. -/
def Inert (depth : Nat) (text : List Lexeme) : Prop :=
  ∀ rest, words depth (text ++ rest) = attach text (words depth rest)

namespace Inert

variable {depth : Nat} {first second : List Lexeme}

theorem nil : Inert depth [] := by
  intro rest
  cases found : words depth rest with
  | nil => exact absurd found (words_ne_nil depth rest)
  | cons word others => simp [found, attach]

theorem append (left : Inert depth first) (right : Inert depth second) :
    Inert depth (first ++ second) := by
  intro rest
  rw [List.append_assoc, left, right, attach_attach]

theorem single {lexeme : Lexeme}
    (plain : lexeme ≠ .code '(' ∧ lexeme ≠ .code ')')
    (noBlank : depth = 0 → lexeme ≠ .code ' ') : Inert depth [lexeme] := by
  intro rest
  have together : ¬ (lexeme = .code ' ' ∧ depth = 0) :=
    fun both => noBlank both.2 both.1
  rw [List.singleton_append, words, if_neg plain.1, if_neg plain.2,
    if_neg together]

theorem of_forall {text : List Lexeme}
    (all : ∀ lexeme ∈ text, Inert depth [lexeme]) : Inert depth text := by
  induction text with
  | nil => exact nil
  | cons lexeme text ih =>
      exact (all lexeme List.mem_cons_self).append
        (ih fun other member => all other (List.mem_cons_of_mem _ member))

theorem bracketed (inner : Inert (depth + 1) first) :
    Inert depth (.code '(' :: first ++ [.code ')']) := by
  intro rest
  have closing : words (depth + 1) ([.code ')'] ++ rest) =
      attach [.code ')'] (words depth rest) := by
    rw [List.singleton_append, words, if_neg (by decide), if_pos rfl]
    rfl
  rw [List.cons_append, List.cons_append, words, if_pos rfl,
    List.append_assoc, inner, closing, attach_attach, attach_attach]
  rfl

theorem codes {text : List Char}
    (plain : ∀ character ∈ text,
      character ≠ '(' ∧ character ≠ ')' ∧
        (depth = 0 → character ≠ ' ')) : Inert depth (codes text) := by
  apply of_forall
  intro lexeme member
  obtain ⟨character, isIn, rfl⟩ := List.mem_map.mp member
  obtain ⟨opening, closing, blank⟩ := plain character isIn
  refine single ?_ ?_
  · simpa using ⟨opening, closing⟩
  · simpa using blank

def isPlainWord (text : List Char) : Bool :=
  text.all fun character => character ∉ ['(', ')', ' ']

theorem of_word {text : List Char} (plain : isPlainWord text) :
    Inert depth (Lexeme.codes text) := by
  apply codes
  intro character member
  have := List.all_eq_true.mp plain character member
  simp_all

theorem of_bareWord {text : List Char} (word : BareWord text) :
    Inert depth (Lexeme.codes text) := by
  apply of_word
  apply List.all_eq_true.mpr
  intro character member
  rw [decide_eq_true_iff]
  intro listed
  have excluded := List.all_eq_true.mp (show
    ['(', ')', ' '].all (fun mark =>
      !isWordCharacter mark && mark ≠ '-') from rfl)
  have := excluded character listed
  rcases word.isWordCharacter_or_hyphen member with isWord | isHyphen
  · simp [isWord] at this
  · simp [isHyphen] at this

end Inert

/-! ## Words that alternate -/

theorem operators_append {before : List (List Lexeme)}
    (even : Even before.length) (after : List (List Lexeme)) :
    operators (before ++ after) = operators before ++ operators after := by
  induction before using operators.induct with
  | case1 word operator rest ih =>
      have rest_even : Even rest.length := by
        simpa [Nat.even_add_one] using even
      simp [operators, ih rest_even]
  | case2 before short =>
      match before with
      | [] => rfl
      | [word] => simp at even
      | word :: operator :: rest => exact absurd rfl (short word operator rest)

/-- The words of a text are words and operators in turn up to a last word,
which goes on behind the text, and so many of the operators are AND. -/
def Joins (text : List Lexeme) (count : Nat) : Prop :=
  ∃ before last, Even before.length ∧
    (operators before).count (codes "AND".toList) = count ∧
    ∀ rest, words 0 (text ++ rest) = before ++ attach last (words 0 rest)

namespace Joins

theorem junctions_eq {text : List Lexeme} {count : Nat}
    (joins : Joins text count) : junctions text = count := by
  obtain ⟨before, last, even, counted, split⟩ := joins
  have words_eq := split []
  rw [List.append_nil, words] at words_eq
  rw [junctions, words_eq, operators_append even]
  simpa [attach, operators] using counted

theorem word {text : List Lexeme} (inert : Inert 0 text) : Joins text 0 :=
  ⟨[], text, by simp, rfl, inert⟩

theorem operator {first second operator : List Lexeme}
    {before after : Nat} (left : Joins first before)
    (between : Inert 0 operator) (right : Joins second after) :
    Joins (first ++ .code ' ' :: (operator ++ .code ' ' :: second))
      (before + (if operator = codes "AND".toList then 1 else 0) + after) := by
  obtain ⟨words₁, last₁, even₁, counted₁, split₁⟩ := left
  obtain ⟨words₂, last₂, even₂, counted₂, split₂⟩ := right
  have blank (rest : List Lexeme) :
      words 0 (.code ' ' :: rest) = [] :: words 0 rest := by
    rw [words, if_neg (by decide), if_neg (by decide), if_pos ⟨rfl, rfl⟩]
  refine ⟨words₁ ++ last₁ :: operator :: words₂, last₂, ?_, ?_, ?_⟩
  · simp only [List.length_append, List.length_cons]
    grind
  · rw [operators_append even₁, operators, List.count_append, counted₁,
      List.count_cons, counted₂]
    simp only [beq_iff_eq]
    omega
  · intro rest
    rw [List.append_assoc, split₁, List.cons_append, blank,
      List.append_assoc, between, List.cons_append, blank, split₂]
    simp [attach]

end Joins

end Lexeme

/-! ## The words of a layout -/

namespace Piece

open Lexeme (Inert Joins codes)

def allLexemes (pieces : List Piece) : List Lexeme := pieces.flatMap lexemes

theorem allLexemes_append (first second : List Piece) :
    allLexemes (first ++ second) = allLexemes first ++ allLexemes second :=
  List.flatMap_append

theorem allLexemes_cons (piece : Piece) (rest : List Piece) :
    allLexemes (piece :: rest) = piece.lexemes ++ allLexemes rest :=
  List.flatMap_cons

variable {depth : Nat}

theorem inert_ofConstant (value : Value) :
    Inert depth (ofConstant value).lexemes := by
  unfold ofConstant
  cases written : value.constant with
  | error cause => exact .nil
  | ok text =>
      rcases Value.constant_eq_ok written with
        ⟨content, quoted, _⟩ | ⟨plain, word⟩
      · simp only [lexemes, quoted]
        exact .single (by simp) (by simp)
      · simp only [lexemes, plain]
        exact .of_bareWord word

theorem inert_ofText {outcome : Except CompileError String}
    (word : ∀ text, outcome = .ok text → BareWord text.toList) :
    Inert depth (ofText outcome).lexemes := by
  cases outcome with
  | error cause => exact .nil
  | ok text => exact .of_bareWord (word text rfl)

theorem inert_plain {text : String}
    (plain : ∀ character ∈ text.toList,
      character ≠ '(' ∧ character ≠ ')' ∧ (depth = 0 → character ≠ ' ')) :
    Inert depth (Piece.plain text).lexemes :=
  .codes plain

theorem inert_separated {separator : String} {layouts : List (List Piece)}
    (between : Inert depth (Piece.plain separator).lexemes)
    (all : ∀ layout ∈ layouts, Inert depth (allLexemes layout)) :
    Inert depth (allLexemes (separated separator layouts)) := by
  induction layouts using separated.induct with
  | case1 => exact .nil
  | case2 pieces => exact all pieces List.mem_cons_self
  | case3 pieces next rest ih =>
      rw [separated, allLexemes_append, allLexemes_cons]
      have others := ih fun layout member =>
        all layout (List.mem_cons_of_mem pieces member)
      exact (all pieces List.mem_cons_self).append (between.append others)

theorem inert_called {name : String} {inner : List Piece}
    (word : Inert depth (codes name.toList))
    (args : Inert (depth + 1) (allLexemes inner)) :
    Inert depth
      (allLexemes (.plain (name ++ "(") :: (inner ++ [.plain ")"]))) := by
  have called : (Piece.plain (name ++ "(")).lexemes =
      codes name.toList ++ [.code '('] := by
    simp [lexemes, codes]
  have := word.append args.bracketed
  rw [allLexemes_cons, allLexemes_append, called, List.append_assoc]
  exact this

theorem allLexemes_listed (operand : List Piece)
    (items : List (List Piece)) :
    allLexemes (listed operand items) =
      allLexemes operand ++ .code ' ' :: (codes "IN".toList ++ .code ' ' ::
        (.code '(' :: allLexemes (separated "," items) ++ [.code ')'])) := by
  rw [listed, allLexemes_append, allLexemes_cons, allLexemes_append]
  rfl

theorem inert_items {items : List (List Piece)}
    (inner : ∀ item ∈ items, Inert (depth + 1) (allLexemes item)) :
    Inert depth
      (.code '(' :: allLexemes (separated "," items) ++ [.code ')']) :=
  (inert_separated (inert_plain (by simp)) inner).bracketed

theorem inert_listed {operand : List Piece} {items : List (List Piece)}
    (left : Inert (depth + 1) (allLexemes operand))
    (inner : ∀ item ∈ items, Inert (depth + 2) (allLexemes item)) :
    Inert (depth + 1) (allLexemes (listed operand items)) := by
  have blank : Inert (depth + 1) [.code ' '] := .single (by simp) (by simp)
  have symbol : Inert (depth + 1) (codes "IN".toList) := .of_word rfl
  rw [allLexemes_listed]
  exact left.append
    (blank.append (symbol.append (blank.append (inert_items inner))))

theorem joins_plain {first second : List Piece} {operator : String}
    {before after : Nat} (left : Joins (allLexemes first) before)
    (between : Inert 0 (codes operator.toList))
    (right : Joins (allLexemes second) after) :
    Joins (allLexemes (first ++ .plain (" " ++ operator ++ " ") :: second))
      (before + (if operator = "AND" then 1 else 0) + after) := by
  have spelled : (Piece.plain (" " ++ operator ++ " ")).lexemes =
      .code ' ' :: (codes operator.toList ++ [.code ' ']) := by
    simp [lexemes, codes]
  have same : codes operator.toList = codes "AND".toList ↔
      operator = "AND" := by
    constructor
    · intro equal
      have injective : Function.Injective Lexeme.code := by
        rintro _ _ ⟨⟩
        rfl
      exact String.toList_injective (injective.list_map equal)
    · rintro rfl
      rfl
  have joined := left.operator between right
  simp only [same] at joined
  simpa [allLexemes_append, allLexemes_cons, spelled] using joined

end Piece

namespace Expr

open Lexeme (Inert Joins codes)
open Piece (allLexemes allLexemes_append allLexemes_cons)

def isOpen : Expr → Bool
  | .compare _ _ _ | .and _ _ | .membership _ _ => true
  | _ => false

private theorem inert_of_parts {operand : Expr} {depth : Nat}
    (noFragment : operand.isFragment = false)
    (closed : operand.isOpen = false)
    (inner : ∀ part ∈ operand.parts,
      Inert (depth + 1) (allLexemes part.layout)) :
    Inert depth (allLexemes operand.layout) := by
  cases operand with
  | column name =>
      rw [layout, allLexemes_cons]
      exact (Piece.inert_ofText fun _ written =>
        (WordRun.of_columnName written).bareWord).append .nil
  | literal value =>
      rw [layout, allLexemes_cons]
      exact (Piece.inert_ofConstant value).append .nil
  | param value =>
      rw [layout]
      exact .single (by simp) (by simp)
  | or | not | nullCheck =>
      rw [layout]
      exact .nil
  | fragment | keywords => cases noFragment
  | compare | and | membership => cases closed
  | call function args =>
      have name : Inert depth (codes function.name.toList) := by
        cases function <;> exact .of_word rfl
      rw [layout]
      exact Piece.inert_called name
        (Piece.inert_separated (Piece.inert_plain (by simp))
          (List.forall_mem_map.mpr inner))
  | cast operand typeName =>
      have typeText : Inert (depth + 1)
          (Piece.ofText (checkedName .identifier typeName)).lexemes :=
        Piece.inert_ofText fun _ written =>
          (WordRun.of_checkedName written).bareWord
      have between : Inert (depth + 1) (Piece.plain " as ").lexemes :=
        Piece.inert_plain (by simp)
      have inside : Inert (depth + 1) (allLexemes (operand.layout ++
          [.plain " as ", .ofText (checkedName .identifier typeName)])) := by
        rw [allLexemes_append]
        exact (inner operand List.mem_cons_self).append
          (between.append (typeText.append .nil))
      have called : Inert depth (allLexemes (.plain ("cast" ++ "(") :: _)) :=
        Piece.inert_called (.of_word rfl) inside
      simpa [layout] using called
  | blob operand typeName =>
      have function : Inert depth
          (Piece.ofText (blobFunction typeName)).lexemes :=
        Piece.inert_ofText fun _ written =>
          (WordRun.of_blobFunction written).bareWord
      have called : Inert depth (allLexemes (.plain ("" ++ "(") :: _)) :=
        Piece.inert_called .nil (inner operand List.mem_cons_self)
      rw [String.empty_append] at called
      rw [layout, allLexemes_cons]
      exact function.append called

private theorem layout_membership {operand : Expr} {values : List Expr}
    (inner : ∀ part ∈ (Expr.membership operand values).parts, ∀ depth,
      Inert (depth + 1) (allLexemes part.layout)) :
    (∃ cause, (Expr.membership operand values).layout = [.flaw cause]) ∨
      operand ∈ (Expr.membership operand values).parts ∧
        ∃ items,
          (Expr.membership operand values).layout =
            Piece.listed operand.layout items ∧
          ∀ depth, ∀ item ∈ items, Inert (depth + 1) (allLexemes item) := by
  rw [layout]
  simp only [parts] at inner ⊢
  cases found : Membership.ofValues values with
  | empty => exact .inl ⟨_, rfl⟩
  | bound items =>
      refine .inr ⟨List.mem_cons_self, _, rfl, ?_⟩
      intro depth
      exact List.forall_mem_map.mpr fun item _ =>
        .single (by simp) (by simp)
  | inlined items =>
      refine .inr ⟨List.mem_cons_self, _, rfl, ?_⟩
      intro depth
      exact List.forall_mem_map.mpr fun item _ =>
        (Piece.inert_ofConstant item).append .nil
  | each =>
      refine .inr ⟨List.mem_cons_self, _, rfl, ?_⟩
      intro depth
      exact List.forall_mem_map.mpr fun value member =>
        inner value (by simp [found, member]) depth

theorem inert_layout {operand : Expr} (free : operand.FragmentFree)
    (depth : Nat) : Inert (depth + 1) (allLexemes operand.layout) := by
  induction free generalizing depth with
  | @intro operand noFragment _ ih =>
  cases operand with
  | column | literal | param | call | cast | blob | or | not | nullCheck =>
      exact inert_of_parts noFragment rfl fun part member =>
        ih part member (depth + 1)
  | fragment | keywords => cases noFragment
  | compare comparison left right =>
      have left := ih left List.mem_cons_self depth
      have right := ih right (List.mem_cons_of_mem _ List.mem_cons_self) depth
      have symbol : Inert (depth + 1)
          (Piece.plain (" " ++ comparison.symbol ++ " ")).lexemes := by
        cases comparison <;>
          exact Piece.inert_plain (by simp [Comparison.symbol])
      rw [layout, allLexemes_append, allLexemes_cons]
      exact left.append (symbol.append right)
  | and first rest =>
      rw [layout, ← List.map_cons]
      apply Piece.inert_separated (Piece.inert_plain (by simp))
      exact List.forall_mem_map.mpr fun part member => ih part member depth
  | membership operand values =>
      rcases layout_membership ih with
        ⟨cause, refused⟩ | ⟨written, items, listed, inner⟩
      · rw [refused]
        exact .nil
      · rw [listed]
        exact Piece.inert_listed (ih operand written depth)
          (inner (depth + 1))

/-! ## Open junctions -/

/-- The ANDs that are written for an expression outside all brackets. -/
def openJunctions : Expr → Nat
  | .compare _ left right => left.openJunctions + right.openJunctions
  | .and first rest =>
      first.openJunctions +
        (rest.map fun operand => operand.openJunctions + 1).sum
  | .membership operand _ => operand.openJunctions
  | _ => 0
termination_by operand => operand.weight
decreasing_by
  all_goals
    simp only [weight]
    try have := weight_lt_of_mem ‹_ ∈ _›
    omega

/-- The open junctions of an expression that do not join relations of it. -/
def hiddenJunctions (operand : Expr) : Nat :=
  (operand.relations.map openJunctions).sum

theorem openJunctions_of_not_isOpen {operand : Expr}
    (closed : operand.isOpen = false) : operand.openJunctions = 0 := by
  cases operand with
  | compare | and | membership => cases closed
  | _ => simp [openJunctions]

private theorem sum_openJunctions {operands : List Expr}
    (each : ∀ operand ∈ operands, operand.openJunctions + 1 =
      operand.relations.length + operand.hiddenJunctions) :
    (operands.map fun operand => operand.openJunctions + 1).sum =
      (operands.flatMap relations).length +
        ((operands.flatMap relations).map openJunctions).sum := by
  induction operands with
  | nil => rfl
  | cons operand rest ih =>
      rw [List.forall_mem_cons] at each
      simp only [List.map_cons, List.sum_cons, List.flatMap_cons,
        List.length_append, List.map_append, List.sum_append, each.1,
        ih each.2, hiddenJunctions]
      omega

/-- Every open junction stands between two relations or is hidden in one. -/
theorem openJunctions_add_one (operand : Expr) :
    operand.openJunctions + 1 =
      operand.relations.length + operand.hiddenJunctions := by
  induction operand using partInduction with
  | whole operand ih =>
  cases operand with
  | and first rest =>
      have head := ih first List.mem_cons_self
      have tail := sum_openJunctions fun operand member =>
        ih operand (List.mem_cons_of_mem first member)
      simp only [openJunctions, relations, hiddenJunctions, tail,
        List.length_append, List.map_append, List.sum_append] at head ⊢
      omega
  | _ => simp [relations, hiddenJunctions, Nat.add_comm]

private theorem joins_separated {first : Expr} {rest : List Expr}
    (all : ∀ operand ∈ first :: rest,
      Joins (allLexemes operand.layout) operand.openJunctions) :
    Joins
      (allLexemes (Piece.separated " AND "
        (first.layout :: rest.map layout)))
      (first.openJunctions +
        (rest.map fun operand => operand.openJunctions + 1).sum) := by
  induction rest generalizing first with
  | nil => simpa [Piece.separated] using all
  | cons next rest ih =>
      rw [List.forall_mem_cons] at all
      have symbol : Inert 0 (codes "AND".toList) := .of_word rfl
      have joined := Piece.joins_plain all.1 symbol (ih all.2)
      have spelled : " " ++ "AND" ++ " " = " AND " := rfl
      have count : first.openJunctions +
          ((next :: rest).map fun operand => operand.openJunctions + 1).sum =
          first.openJunctions + 1 + (next.openJunctions +
            (rest.map fun operand => operand.openJunctions + 1).sum) := by
        simp only [List.map_cons, List.sum_cons]
        omega
      rw [spelled, if_pos rfl, ← count] at joined
      exact joined

theorem joins_layout {operand : Expr} (free : operand.FragmentFree)
    (sound : operand.flaws = []) :
    Joins (allLexemes operand.layout) operand.openJunctions := by
  induction free with
  | @intro operand noFragment parts_free ih =>
  have joins := fun part member =>
    ih part member (flaws_eq_nil_of_mem_parts member sound)
  have inert := fun part member => inert_layout (parts_free part member)
  cases operand with
  | column | literal | param | call | cast | blob | or | not | nullCheck =>
      rw [openJunctions_of_not_isOpen rfl]
      exact .word (inert_of_parts noFragment rfl fun part member =>
        inert part member 0)
  | fragment | keywords => cases noFragment
  | compare comparison left right =>
      have symbol : Inert 0 (codes comparison.symbol.toList) := by
        cases comparison <;> exact .of_word rfl
      have notAnd : comparison.symbol ≠ "AND" := by
        cases comparison <;> decide
      have joined := Piece.joins_plain (joins left List.mem_cons_self) symbol
        (joins right (List.mem_cons_of_mem _ List.mem_cons_self))
      rw [layout, openJunctions]
      simpa [notAnd] using joined
  | and first rest =>
      rw [layout, openJunctions]
      exact joins_separated joins
  | membership operand values =>
      rcases layout_membership inert with
        ⟨cause, refused⟩ | ⟨written, items, listed, inner⟩
      · rw [← flaws_layout, refused] at sound
        cases sound
      · have symbol : Inert 0 (codes "IN".toList) := .of_word rfl
        have notAnd : codes "IN".toList ≠ codes "AND".toList := by decide
        have joined := (joins operand written).operator symbol
          (.word (Piece.inert_items (inner 0)))
        rw [if_neg notAnd] at joined
        rw [listed, Piece.allLexemes_listed, openJunctions]
        exact joined

/-! ## What a text tells about grouping -/

theorem junctions_of_render {operand : Expr} {params : List Value}
    {text : String} (free : operand.FragmentFree)
    (built : (operand.render.runWith ⟨"?", params⟩).1 = .ok text) :
    ∃ lexemes, Lexeme.scan none text.toList = some lexemes ∧
      Lexeme.junctions lexemes = operand.openJunctions := by
  obtain ⟨sound, rfl⟩ := flaws_and_markedText_of_render built
  have scanned := Piece.scan_written (spells_layout free).toQuiet
    ((flaws_layout operand).trans sound)
  exact ⟨_, scanned, (joins_layout free sound).junctions_eq⟩

/-- Expressions with one text agree in the number of their relations and hidden
junctions together, so they have equally many relations if no junction is
hidden in either of them. -/
theorem relations_of_same_text {first second : Expr}
    {before after : List Value} {text : String}
    (firstFree : first.FragmentFree) (secondFree : second.FragmentFree)
    (firstBuilt : (first.render.runWith ⟨"?", before⟩).1 = .ok text)
    (secondBuilt : (second.render.runWith ⟨"?", after⟩).1 = .ok text) :
    first.relations.length + first.hiddenJunctions =
        second.relations.length + second.hiddenJunctions ∧
      (first.hiddenJunctions = 0 → second.hiddenJunctions = 0 →
        first.relations.length = second.relations.length) := by
  obtain ⟨_, scanned, firstCount⟩ := junctions_of_render firstFree firstBuilt
  obtain ⟨_, again, secondCount⟩ := junctions_of_render secondFree secondBuilt
  rw [scanned] at again
  cases again
  have firstSum := first.openJunctions_add_one
  have secondSum := second.openJunctions_add_one
  omega

namespace FragmentFree

theorem leaf {operand : Expr} (noFragment : operand.isFragment = false)
    (noParts : operand.parts = []) : operand.FragmentFree :=
  .intro noFragment (by simp [noParts])

theorem compare {comparison : Comparison} {left right : Expr}
    (leftFree : left.FragmentFree) (rightFree : right.FragmentFree) :
    (Expr.compare comparison left right).FragmentFree :=
  .intro rfl (by simpa [parts] using ⟨leftFree, rightFree⟩)

theorem and {first second : Expr} (firstFree : first.FragmentFree)
    (secondFree : second.FragmentFree) :
    (Expr.and first [second]).FragmentFree :=
  .intro rfl (by simpa [parts] using ⟨firstFree, secondFree⟩)

end FragmentFree

/-- Relations on columns that are called like operators, joined from the left
and from the right. -/
def groupedEarly : Expr :=
  .and (.and (.column "AND") [.compare .less (.column "IN") (.param .null)])
    [.membership (.column "AND") [.param (.list [.text " AND "])]]

def groupedLate : Expr :=
  .and (.column "AND") [.and (.compare .less (.column "IN") (.param .null))
    [.membership (.column "AND") [.param (.list [.text " AND "])]]]

theorem relations_of_groupedEarly :
    groupedEarly.relations.length + groupedEarly.hiddenJunctions =
      groupedLate.relations.length + groupedLate.hiddenJunctions := by
  have column (name : String) : (Expr.column name).FragmentFree :=
    .leaf rfl rfl
  have compared : (Expr.compare .less (.column "IN")
      (.param .null)).FragmentFree := .compare (column _) (.leaf rfl rfl)
  have member : (Expr.membership (.column "AND")
      [.param (.list [.text " AND "])]).FragmentFree :=
    .intro rfl (by
      intro part isPart
      cases List.mem_singleton.mp isPart
      exact column _)
  have early : groupedEarly.FragmentFree :=
    .and (.and (column _) compared) member
  have late : groupedLate.FragmentFree := .and (column _) (.and compared member)
  have earlyText : (groupedEarly.render.runWith ⟨"?", []⟩).1 =
      .ok "AND AND IN < ? AND AND IN (?)" := by cbv
  have lateText : (groupedLate.render.runWith ⟨"?", []⟩).1 =
      .ok "AND AND IN < ? AND AND IN (?)" := by cbv
  exact (relations_of_same_text early late earlyText lateText).1

def comparedJunction : Expr :=
  .compare .equal (.and (.column "a") [.column "b"]) (.column "c")

def joinedComparison : Expr :=
  .and (.column "a") [.compare .equal (.column "b") (.column "c")]

/-- One text with one list of parameters stands for one relation and for two:
a hidden junction cannot be told from one between relations. -/
theorem not_relations_eq_of_same_text :
    ¬ ∀ (first second : Expr) (text : String) (params : List Value),
      first.FragmentFree → second.FragmentFree →
      first.render.runWith .empty = (.ok text, ⟨"?", params⟩) →
      second.render.runWith .empty = (.ok text, ⟨"?", params⟩) →
      first.relations.length = second.relations.length := by
  intro same
  have column (name : String) : (Expr.column name).FragmentFree :=
    .leaf rfl rfl
  have compared : comparedJunction.FragmentFree :=
    .compare (.and (column _) (column _)) (column _)
  have joined : joinedComparison.FragmentFree :=
    .and (column _) (.compare (column _) (column _))
  have comparedText : comparedJunction.render.runWith .empty =
      (.ok "a AND b = c", ⟨"?", []⟩) := by cbv
  have joinedText : joinedComparison.render.runWith .empty =
      (.ok "a AND b = c", ⟨"?", []⟩) := by cbv
  have equal := same _ _ _ _ compared joined comparedText joinedText
  have one : comparedJunction.relations.length = 1 := by cbv
  have two : joinedComparison.relations.length = 2 := by cbv
  omega

end Expr

end StructuredCql
