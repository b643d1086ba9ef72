import Mathlib.Data.List.Basic
import StructuredCql.Proofs.Constants
import StructuredCql.Text.Basic

/-!
# Reading operands back

What the text of an operand tells is a term: functions applied to terms, down
to the columns, the constants and the marks.  A reader recovers it from the
text alone.  An operand ends where a blank, a comma or a closing parenthesis
stands outside its own parentheses and quotes, so each operand is read in the
same way wherever it stands.
-/

namespace StructuredCql

inductive Term where
  | atom (text : String)
  | call (name : String) (args : List Term)
  | cast (operand : Term) (typeName : String)
  | blob (typeName : String) (operand : Term)

namespace Term

def isDelimiter (character : Char) : Bool := character ∈ [' ', ',', '(', ')']

def word (text : List Char) : List Char :=
  text.takeWhile fun character => !isDelimiter character

def afterWord (text : List Char) : List Char :=
  text.dropWhile fun character => !isDelimiter character

def after : List Char → List Char → Option (List Char)
  | [], text => some text
  | _ :: _, [] => none
  | first :: lead, character :: text =>
      if first = character then after lead text else none

def readQuoted : List Char → Option (List Char × List Char)
  | [] => none
  | '\'' :: '\'' :: text =>
      (readQuoted text).map fun read => ('\'' :: '\'' :: read.1, read.2)
  | '\'' :: text => some (['\''], text)
  | character :: text =>
      (readQuoted text).map fun read => (character :: read.1, read.2)

def blobType? (name : List Char) : Option (List Char) :=
  if "AsBlob".toList.isSuffixOf name then some (name.take (name.length - 6))
  else none

mutual

/-- An operand at the beginning of a text, and what follows it. -/
def read : Nat → List Char → Option (Term × List Char)
  | 0, _ => none
  | _ + 1, '\'' :: text => do
      let (content, text) ← readQuoted text
      pure (.atom (String.ofList ('\'' :: content)), text)
  | steps + 1, text =>
      match afterWord text with
      | '(' :: inner =>
          if word text = "cast".toList then do
            let (operand, inner) ← read steps inner
            let typed ← after " as ".toList inner
            let rest ← after [')'] (afterWord typed)
            pure (.cast operand (String.ofList (word typed)), rest)
          else match blobType? (word text) with
            | some typeName => do
                let (operand, inner) ← read steps inner
                let rest ← after [')'] inner
                pure (.blob (String.ofList typeName) operand, rest)
            | none => do
                let (args, rest) ← readList ", ".toList steps inner
                pure (.call (String.ofList (word text)) args, rest)
      | rest =>
          if (word text).isEmpty then none
          else some (.atom (String.ofList (word text)), rest)

def readList (separator : List Char) :
    Nat → List Char → Option (List Term × List Char)
  | 0, _ => none
  | _ + 1, ')' :: text => some ([], text)
  | steps + 1, text => do
      let (first, text) ← read steps text
      let (others, text) ← readFurther separator steps text
      pure (first :: others, text)

def readFurther (separator : List Char) :
    Nat → List Char → Option (List Term × List Char)
  | 0, _ => none
  | _ + 1, ')' :: text => some ([], text)
  | steps + 1, text => do
      let text ← after separator text
      let (first, text) ← read steps text
      let (others, text) ← readFurther separator steps text
      pure (first :: others, text)

end

/-! ## Where operands end -/

/-- Nothing that would be taken for a part of the operand follows. -/
def Stops (text : List Char) : Prop :=
  ∀ character ∈ text.head?, character ∈ [' ', ',', ')']

structure Reads (text : List Char) (term : Term) : Prop where
  nonempty : text ≠ []
  read_append : ∀ {steps : Nat} {rest : List Char},
    text.length ≤ steps → Stops rest →
    read steps (text ++ rest) = some (term, rest)

theorem after_append (lead text : List Char) :
    after lead (lead ++ text) = some text := by
  induction lead with
  | nil => rfl
  | cons first lead ih => simp [after, ih]

theorem word_append {text rest : List Char}
    (free : ∀ character ∈ text, isDelimiter character = false)
    (parted : ∀ character ∈ rest.head?, isDelimiter character) :
    word (text ++ rest) = text ∧ afterWord (text ++ rest) = rest := by
  have kept : ∀ character ∈ text, (!isDelimiter character) = true := by
    intro character member
    rw [free character member]
    rfl
  unfold word afterWord
  rw [List.takeWhile_append_of_pos kept, List.dropWhile_append_of_pos kept]
  cases rest with
  | nil => simp
  | cons first rest => simp [parted first rfl]

theorem Stops.of_append {lead rest : List Char}
    (first : lead.head?.any (· ∈ [' ', ',', ')'])) : Stops (lead ++ rest) := by
  cases lead with
  | nil => cases first
  | cons character lead => simpa [Stops] using first

theorem Stops.parted {text : List Char} (stops : Stops text) :
    ∀ character ∈ text.head?, isDelimiter character := by
  intro character isHead
  have := stops character isHead
  simp only [List.mem_cons, List.not_mem_nil, or_false] at this
  rcases this with rfl | rfl | rfl <;> rfl

theorem Reads.of_succ {text : List Char} {term : Term} (nonempty : text ≠ [])
    (read_append : ∀ {steps : Nat} {rest : List Char},
      text.length ≤ steps + 1 → Stops rest →
      read (steps + 1) (text ++ rest) = some (term, rest)) :
    Reads text term := by
  have positive := List.length_pos_iff.mpr nonempty
  refine ⟨nonempty, ?_⟩
  intro steps rest enough stops
  cases steps with
  | zero => omega
  | succ steps => exact read_append enough stops

/-! ## Atoms -/

structure IsWord (text : List Char) : Prop where
  nonempty : text ≠ []
  free : ∀ character ∈ text,
    isDelimiter character = false ∧ character ≠ '\''

theorem IsWord.not_quoted {text : List Char} (isWord : IsWord text)
    (rest other : List Char) : text ++ rest ≠ '\'' :: other := by
  obtain ⟨first, text, rfl⟩ := List.exists_cons_of_ne_nil isWord.nonempty
  have := (isWord.free first List.mem_cons_self).2
  simp [this]

theorem IsWord.reads {text : List Char} (isWord : IsWord text) :
    Reads text (.atom (String.ofList text)) := by
  apply Reads.of_succ isWord.nonempty
  intro steps rest _ stops
  obtain ⟨same, after⟩ := word_append
    (fun character member => (isWord.free character member).1) stops.parted
  rw [read]
  · rw [same, after]
    split
    · have := stops '(' rfl
      simp at this
    · simp [isWord.nonempty]
  · exact fun other => isWord.not_quoted rest other

theorem readQuoted_append (content : List Char) {rest : List Char}
    (closed : rest.head? ≠ some '\'') :
    readQuoted (doubleApostrophes content ++ '\'' :: rest) =
      some (doubleApostrophes content ++ ['\''], rest) := by
  induction content using doubleApostrophes.induct with
  | case1 =>
      cases rest with
      | nil => rfl
      | cons next rest =>
          have lone : ∀ other, next :: rest ≠ '\'' :: other := by
            simpa using closed
          exact readQuoted.eq_3 _ lone
  | case2 content ih =>
      rw [doubleApostrophes, List.cons_append, List.cons_append, readQuoted, ih]
      rfl
  | case3 character content plain ih =>
      rw [doubleApostrophes.eq_3 _ _ plain, List.cons_append, readQuoted, ih]
      · rfl
      · exact fun _ same _ => plain same
      · exact plain

theorem reads_quotedConstant (content : String) :
    Reads (quotedConstant content).toList
      (.atom (quotedConstant content)) := by
  apply Reads.of_succ (by simp [quotedConstant])
  intro steps rest _ stops
  have spelled : (quotedConstant content).toList =
      '\'' :: (doubleApostrophes content.toList ++ ['\'']) := by
    simp [quotedConstant]
  have closed : rest.head? ≠ some '\'' := by
    intro quote
    have := stops '\'' quote
    simp at this
  rw [spelled, List.cons_append, List.append_assoc, read, List.cons_append,
    List.nil_append, readQuoted_append _ closed]
  rw [Option.bind_eq_bind, Option.bind_some]
  dsimp only
  rw [← spelled, String.ofList_toList]
  rfl

/-! ## Applications -/

private theorem read_applied {name : List Char} (isWord : IsWord name)
    (steps : Nat) (inner : List Char) :
    read (steps + 1) (name ++ '(' :: inner) =
      (if name = "cast".toList then do
        let (operand, inner) ← read steps inner
        let typed ← after " as ".toList inner
        let rest ← after [')'] (afterWord typed)
        pure (.cast operand (String.ofList (word typed)), rest)
      else match blobType? name with
        | some typeName => do
            let (operand, inner) ← read steps inner
            let rest ← after [')'] inner
            pure (.blob (String.ofList typeName) operand, rest)
        | none => do
            let (args, rest) ← readList ", ".toList steps inner
            pure (.call (String.ofList name) args, rest)) := by
  obtain ⟨same, after⟩ := @word_append name ('(' :: inner)
    (fun character member => (isWord.free character member).1)
    (by simp [isDelimiter])
  rw [read]
  · rw [same, after]
    rfl
  · exact fun other => isWord.not_quoted _ other

theorem Reads.cast {text : List Char} {operand : Term}
    (reads : Reads text operand) {typeName : List Char}
    (isWord : IsWord typeName) :
    Reads ("cast".toList ++ '(' :: (text ++ (" as ".toList ++
        (typeName ++ [')']))))
      (.cast operand (String.ofList typeName)) := by
  apply Reads.of_succ (by simp)
  intro steps rest enough stops
  have inner := @reads.read_append steps
    (" as ".toList ++ (typeName ++ ')' :: rest))
    (by simp at enough; omega) (.of_append rfl)
  obtain ⟨same, behind⟩ := @word_append typeName (')' :: rest)
    (fun character member => (isWord.free character member).1)
    (by simp [isDelimiter])
  simp only [List.append_assoc, List.cons_append, List.nil_append]
  rw [read_applied ⟨by simp, by simp [isDelimiter]⟩, if_pos rfl, inner]
  simp only [Option.bind_eq_bind, Option.bind_some, after_append, same,
    behind]
  rfl

theorem blobType?_append (typeName : List Char) :
    blobType? (typeName ++ "AsBlob".toList) = some typeName := by
  unfold blobType?
  rw [if_pos (List.isSuffixOf_iff_suffix.mpr (List.suffix_append _ _))]
  simp

theorem Reads.blob {text : List Char} {operand : Term}
    (reads : Reads text operand) {typeName : List Char}
    (isWord : IsWord (typeName ++ "AsBlob".toList)) :
    Reads (typeName ++ ("AsBlob".toList ++ '(' :: (text ++ [')'])))
      (.blob (String.ofList typeName) operand) := by
  apply Reads.of_succ (by simp)
  intro steps rest enough stops
  have inner := @reads.read_append steps (')' :: rest)
    (by simp at enough; omega) (by simp [Stops])
  have noCast : typeName ++ "AsBlob".toList ≠ "cast".toList := by
    intro same
    have := congrArg List.getLast? same
    rw [List.getLast?_append_of_ne_nil _ (by decide)] at this
    revert this
    decide
  simp only [List.append_assoc, List.cons_append, List.nil_append]
  rw [← List.append_assoc, read_applied isWord, if_neg noCast,
    blobType?_append, inner]
  rfl

/-! ## Lists of operands -/

theorem Reads.not_closed {text : List Char} {term : Term}
    (reads : Reads text term) (rest other : List Char) :
    text ++ rest ≠ ')' :: other := by
  obtain ⟨first, text, rfl⟩ := List.exists_cons_of_ne_nil reads.nonempty
  have whole := @reads.read_append _ [] (Nat.le_refl _) (by simp [Stops])
  intro closed
  rw [List.cons_append, List.cons.injEq] at closed
  rw [closed.1] at whole
  simp [read, word, afterWord, isDelimiter] at whole

theorem toList_joined_cons (separator text : String) (rest : List String) :
    (Text.joined separator (text :: rest)).toList =
      text.toList ++
        rest.flatMap fun other => separator.toList ++ other.toList := by
  induction rest generalizing text with
  | nil => simp [Text.joined]
  | cons next rest ih => simp [Text.joined, ih, String.toList_append]

variable {text : α → String} {term : α → Term} {separator : String}

private theorem readFurther_append {items : List α}
    (reads : ∀ item ∈ items, Reads (text item).toList (term item))
    (comma : separator.toList.head? = some ',') {steps : Nat}
    (rest : List Char)
    (enough : (items.flatMap fun item =>
      separator.toList ++ (text item).toList).length < steps) :
    readFurther separator.toList steps
        ((items.flatMap fun item =>
          separator.toList ++ (text item).toList) ++ ')' :: rest) =
      some (items.map term, rest) := by
  obtain ⟨tail, spelled⟩ : ∃ tail, separator.toList = ',' :: tail := by
    cases found : separator.toList <;> simp_all
  rw [spelled] at enough ⊢
  induction items generalizing steps with
  | nil =>
      obtain ⟨steps, rfl⟩ := Nat.exists_eq_add_one_of_ne_zero
        (show steps ≠ 0 by omega)
      simp [readFurther]
  | cons item items ih =>
      simp only [List.flatMap_cons, List.length_append, List.length_cons]
        at enough
      obtain ⟨steps, rfl⟩ := Nat.exists_eq_add_one_of_ne_zero
        (show steps ≠ 0 by omega)
      have first := @(reads item List.mem_cons_self).read_append steps
        ((items.flatMap fun item => ',' :: tail ++ (text item).toList) ++
          ')' :: rest) (by omega) (by cases items <;> simp [Stops])
      have others : readFurther (',' :: tail) steps _ = _ :=
        ih (fun other member => reads other (List.mem_cons_of_mem item member))
          (by omega)
      rw [List.flatMap_cons, List.append_assoc, List.append_assoc,
        List.cons_append, readFurther, ← List.cons_append, after_append]
      · simp only [Option.bind_eq_bind, Option.bind_some, first, others]
        rfl
      · simp

theorem readList_append {items : List α}
    (reads : ∀ item ∈ items, Reads (text item).toList (term item))
    (comma : separator.toList.head? = some ',') {steps : Nat}
    (rest : List Char)
    (enough : (Text.joined separator (items.map text)).toList.length < steps) :
    readList separator.toList steps
        ((Text.joined separator (items.map text)).toList ++ ')' :: rest) =
      some (items.map term, rest) := by
  obtain ⟨steps, rfl⟩ := Nat.exists_eq_add_one_of_ne_zero
    (show steps ≠ 0 by omega)
  cases items with
  | nil => simp [Text.joined, readList]
  | cons item items =>
      have readsFirst := reads item List.mem_cons_self
      have positive := List.length_pos_iff.mpr readsFirst.nonempty
      rw [List.map_cons, toList_joined_cons, List.flatMap_map] at enough ⊢
      rw [List.length_append] at enough
      have first := @readsFirst.read_append steps
        ((items.flatMap fun item => separator.toList ++ (text item).toList) ++
          ')' :: rest) (by omega) (by cases items <;> simp [Stops, comma])
      have others := @readFurther_append _ text term separator items
        (fun other member => reads other (List.mem_cons_of_mem item member))
        comma steps rest (by omega)
      rw [List.append_assoc, readList]
      · simp only [Option.bind_eq_bind, Option.bind_some, first, others]
        rfl
      · exact fun other => readsFirst.not_closed _ other

theorem Reads.call {name : String} (isWord : IsWord name.toList)
    (noCast : name ≠ "cast") (noBlob : blobType? name.toList = none)
    {items : List α}
    (reads : ∀ item ∈ items, Reads (text item).toList (term item)) :
    Reads (name.toList ++ '(' :: ((Text.joined ", " (items.map text)).toList ++
        [')']))
      (.call name (items.map term)) := by
  apply Reads.of_succ (by simp)
  intro steps rest enough stops
  have positive := List.length_pos_iff.mpr isWord.nonempty
  have args := @readList_append _ text term ", " items reads rfl steps rest
    (by simp at enough; omega)
  have noCast : name.toList ≠ "cast".toList :=
    fun same => noCast (String.toList_inj.mp same)
  simp only [List.append_assoc, List.cons_append, List.nil_append]
  rw [read_applied isWord, if_neg noCast, noBlob]
  dsimp only
  rw [args, Option.bind_eq_bind, Option.bind_some, String.ofList_toList]
  rfl

end Term

end StructuredCql
