import StructuredCql.Proofs.Grammar.Term

/-!
# Reading filters back

The skeleton of a filter lists the relations that all have to hold, with their
operators and operands.  A reader recovers it from the text of the filter.  No
parentheses tell the relations apart; what follows an operand does.
-/

namespace StructuredCql

inductive Conjunct where
  | bare (term : Term)
  | compare (comparison : Comparison) (left right : Term)
  | membership (operand : Term) (items : List Term)

/-! ## Relations -/

namespace Conjunct

open Term

def readComparison (text : List Char) : Option (Comparison × List Char) :=
  Comparison.all.findSome? fun comparison =>
    (after (" " ++ comparison.symbol ++ " ").toList text).map (comparison, ·)

def read (steps : Nat) (text : List Char) :
    Option (Conjunct × List Char) := do
  let (left, rest) ← Term.read steps text
  match after " IN (".toList rest with
  | some items => do
      let (items, rest) ← readList ",".toList steps items
      pure (.membership left items, rest)
  | none =>
      match readComparison rest with
      | some (comparison, right) => do
          let (right, rest) ← Term.read steps right
          pure (.compare comparison left right, rest)
      | none => pure (.bare left, rest)

def Ends (text : List Char) : Prop :=
  text = [] ∨ ∃ rest, text = " AND ".toList ++ rest

theorem Ends.stops {text : List Char} (ends : Ends text) : Stops text := by
  rcases ends with rfl | ⟨rest, rfl⟩
  · simp [Stops]
  · exact .of_append rfl

structure Reads (text : List Char) (conjunct : Conjunct) : Prop where
  read_append : ∀ {steps : Nat} {rest : List Char},
    text.length ≤ steps → Ends rest →
    read steps (text ++ rest) = some (conjunct, rest)

theorem Reads.bare {text : List Char} {term : Term}
    (reads : Term.Reads text term) : Reads text (.bare term) := by
  constructor
  intro steps rest enough ends
  have noList : after " IN (".toList rest = none := by
    rcases ends with rfl | ⟨rest, rfl⟩ <;> rfl
  have noSign : readComparison rest = none := by
    rcases ends with rfl | ⟨rest, rfl⟩ <;> rfl
  rw [read, reads.read_append enough ends.stops]
  simp only [Option.bind_eq_bind, Option.bind_some, noList, noSign]
  rfl

theorem readComparison_append (comparison : Comparison) (text : List Char) :
    readComparison ((" " ++ comparison.symbol ++ " ").toList ++ text) =
      some (comparison, text) := by
  cases comparison <;> rfl

theorem Reads.compare {left right : List Char} {first second : Term}
    (comparison : Comparison) (before : Term.Reads left first)
    (behind : Term.Reads right second) :
    Reads (left ++ ((" " ++ comparison.symbol ++ " ").toList ++ right))
      (.compare comparison first second) := by
  constructor
  intro steps rest enough ends
  have sign := readComparison_append comparison (right ++ rest)
  have noList : after " IN (".toList
      ((" " ++ comparison.symbol ++ " ").toList ++ (right ++ rest)) = none := by
    cases comparison <;> rfl
  simp only [List.length_append] at enough
  rw [read, List.append_assoc, List.append_assoc,
    before.read_append (by omega)
      (by cases comparison <;> exact .of_append rfl)]
  simp only [Option.bind_eq_bind, Option.bind_some, noList, sign]
  rw [behind.read_append (by omega) ends.stops]
  rfl

theorem Reads.membership {left : List Char} {operand : Term}
    (before : Term.Reads left operand) {text : α → String} {term : α → Term}
    {items : List α}
    (reads : ∀ item ∈ items, Term.Reads (text item).toList (term item)) :
    Reads (left ++ (" IN (".toList ++
        ((Text.joined "," (items.map text)).toList ++ [')'])))
      (.membership operand (items.map term)) := by
  constructor
  intro steps rest enough ends
  simp only [List.length_append, List.length_singleton] at enough
  have listed := @readList_append _ text term "," items reads rfl steps rest
    (by omega)
  simp only [List.append_assoc, List.cons_append, List.nil_append]
  rw [read, before.read_append (by omega) (.of_append rfl)]
  simp only [Option.bind_eq_bind, Option.bind_some, after_append, listed]
  rfl

end Conjunct

/-! ## Filters -/

abbrev Skeleton : Type := List Conjunct

namespace Skeleton

open Term

def readConjuncts : Nat → List Char → Option Skeleton
  | 0, _ => none
  | steps + 1, text => do
      let (first, rest) ← Conjunct.read text.length text
      if rest.isEmpty then
        pure [first]
      else
        let rest ← after " AND ".toList rest
        let others ← readConjuncts steps rest
        pure (first :: others)

def read (text : String) : Option Skeleton :=
  readConjuncts (text.length + 1) text.toList

variable {text : α → String} {conjunct : α → Conjunct}

theorem readConjuncts_joined {items : List α} (nonempty : items ≠ [])
    (reads : ∀ item ∈ items,
      Conjunct.Reads (text item).toList (conjunct item)) {steps : Nat}
    (enough : items.length ≤ steps) :
    readConjuncts steps (Text.joined " AND " (items.map text)).toList =
      some (items.map conjunct) := by
  induction items generalizing steps with
  | nil => exact absurd rfl nonempty
  | cons item items ih =>
      simp only [List.length_cons] at enough
      obtain ⟨steps, rfl⟩ := Nat.exists_eq_add_one_of_ne_zero
        (show steps ≠ 0 by omega)
      have first := reads item List.mem_cons_self
      cases items with
      | nil =>
          have whole := @first.read_append (text item).toList.length []
            (Nat.le_refl _) (.inl rfl)
          rw [List.append_nil] at whole
          simp only [List.map_cons, List.map_nil, Text.joined, readConjuncts,
            whole]
          rfl
      | cons next items =>
          have others := @ih (by simp) (fun other member =>
            reads other (List.mem_cons_of_mem item member)) steps (by omega)
          have spelled : (Text.joined " AND "
              ((item :: next :: items).map text)).toList =
                (text item).toList ++ (" AND ".toList ++
                  (Text.joined " AND " ((next :: items).map text)).toList) := by
            simp [Text.joined]
          rw [spelled, readConjuncts, first.read_append
            (by simp only [List.length_append]; omega) (.inr ⟨_, rfl⟩)]
          simp only [Option.bind_eq_bind, Option.bind_some, after_append,
            others]
          rfl

theorem read_joined {items : List α} (nonempty : items ≠ [])
    (reads : ∀ item ∈ items,
      Conjunct.Reads (text item).toList (conjunct item)) :
    read (Text.joined " AND " (items.map text)) =
      some (items.map conjunct) := by
  refine readConjuncts_joined nonempty reads ?_
  obtain ⟨first, items, rfl⟩ := List.exists_cons_of_ne_nil nonempty
  have others : items.length ≤ (items.flatMap fun item =>
      " AND ".toList ++ (text item).toList).length := by
    clear reads
    induction items with
    | nil => simp
    | cons item items ih =>
        have := ih (by simp)
        have : 0 < " AND ".toList.length := by decide
        simp only [List.flatMap_cons, List.length_append, List.length_cons]
        omega
  rw [← String.length_toList, List.map_cons, toList_joined_cons,
    List.flatMap_map, List.length_append, List.length_cons]
  omega

end Skeleton

end StructuredCql
