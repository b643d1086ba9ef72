import StructuredCql.Literal
import StructuredCql.Proofs.Outcomes

/-!
# Bare words

Names, numbers, identifiers and bytes reach a statement without quotes.  All
of them are bare words: characters of a small class, among which a hyphen may
stand wherever a character of the class follows.  A constant is either a bare
word or a quoted text.
-/

namespace StructuredCql

open StructuredCql.Text

def isWordCharacter (character : Char) : Bool :=
  character.isAlphanum || character ∈ ['_', '\n', '.', '+']

structure WordRun (text : List Char) : Prop where
  nonempty : text ≠ []
  characters : ∀ character ∈ text, isWordCharacter character

inductive BareWord : List Char → Prop
  | last {character : Char} :
      isWordCharacter character → BareWord [character]
  | character {character : Char} {rest : List Char} :
      isWordCharacter character → BareWord rest →
      BareWord (character :: rest)
  | hyphen {character : Char} {rest : List Char} :
      isWordCharacter character → BareWord (character :: rest) →
      BareWord ('-' :: character :: rest)

theorem isWordCharacter_of_isAlphanum {character : Char}
    (alphanumeric : character.isAlphanum) : isWordCharacter character := by
  simp [isWordCharacter, alphanumeric]

namespace WordRun

theorem of_all {text : List Char}
    (all : !text.isEmpty && text.all isWordCharacter) : WordRun text := by
  rw [Bool.and_eq_true, List.all_eq_true] at all
  exact ⟨by simpa using all.1, all.2⟩

theorem append {first second : List Char} (left : WordRun first)
    (right : ∀ character ∈ second, isWordCharacter character) :
    WordRun (first ++ second) := by
  constructor
  · simp [left.nonempty]
  · intro character member
    rcases List.mem_append.mp member with member | member
    · exact left.characters character member
    · exact right character member

theorem bareWord {text : List Char} (run : WordRun text) : BareWord text := by
  obtain ⟨nonempty, characters⟩ := run
  induction text with
  | nil => exact absurd rfl nonempty
  | cons first rest ih =>
      have isWord := characters first List.mem_cons_self
      cases rest with
      | nil => exact .last isWord
      | cons second rest =>
          apply BareWord.character isWord
          apply ih (by simp)
          intro character member
          exact characters character (List.mem_cons_of_mem first member)

theorem hyphen {text : List Char} (run : WordRun text) :
    BareWord ('-' :: text) := by
  cases text with
  | nil => exact absurd rfl run.nonempty
  | cons first rest =>
      exact .hyphen (run.characters first List.mem_cons_self) run.bareWord

end WordRun

namespace BareWord

theorem append {first second : List Char} (left : BareWord first)
    (right : BareWord second) : BareWord (first ++ second) := by
  induction left with
  | last isWord => exact .character isWord right
  | character isWord _ ih => exact .character isWord ih
  | hyphen isWord _ ih => exact .hyphen isWord ih

theorem ne_nil {text : List Char} (word : BareWord text) : text ≠ [] := by
  cases word <;> simp

theorem isWordCharacter_or_hyphen {text : List Char} (word : BareWord text)
    {character : Char} (member : character ∈ text) :
    isWordCharacter character ∨ character = '-' := by
  induction word with
  | last isWord =>
      rw [List.mem_singleton.mp member]
      exact .inl isWord
  | character isWord _ ih =>
      rcases List.mem_cons.mp member with rfl | member
      · exact .inl isWord
      · exact ih member
  | hyphen _ _ ih =>
      rcases List.mem_cons.mp member with rfl | member
      · exact .inr rfl
      · exact ih member

end BareWord

/-! ## Names -/

theorem WordRun.of_isIdentifier {text : List Char}
    (identifier : isIdentifier text) : WordRun text := by
  have tail (rest : List Char) (isTail : isIdentifierTail rest) :
      ∀ character ∈ rest, isWordCharacter character := by
    induction rest using isIdentifierTail.induct with
    | case1 => simp
    | case2 => simp [isWordCharacter]
    | case3 first rest _ ih =>
        simp only [isIdentifierTail, Bool.and_eq_true] at isTail
        intro character member
        rcases List.mem_cons.mp member with rfl | member
        · have := isTail.1
          simp only [isIdentifierPart, Bool.or_eq_true, decide_eq_true_eq]
            at this
          rcases this with alphanumeric | rfl
          · exact isWordCharacter_of_isAlphanum alphanumeric
          · decide
        · exact ih isTail.2 character member
  cases text with
  | nil => cases identifier
  | cons first rest =>
      simp only [isIdentifier, isIdentifierStart, Bool.and_eq_true,
        Bool.or_eq_true, decide_eq_true_eq] at identifier
      constructor
      · simp
      · intro character member
        rcases List.mem_cons.mp member with rfl | member
        · rcases identifier.1 with alpha | rfl
          · apply isWordCharacter_of_isAlphanum
            simp [Char.isAlphanum, alpha]
          · decide
        · exact tail rest identifier.2 character member

theorem checkedName_eq_ok {role : NameRole} {name text : String} :
    checkedName role name = .ok text ↔
      isIdentifier name.toList ∧ text = name := by
  unfold checkedName
  split <;> rename_i accepted <;> simp [accepted, eq_comm]

theorem isIdentifier_of_columnName {name text : String}
    (written : columnName name = .ok text) : isIdentifier text.toList := by
  unfold columnName at written
  split at written
  · obtain ⟨accepted, rfl⟩ := checkedName_eq_ok.mp written
    exact accepted
  · obtain ⟨_, _, written⟩ := bind_eq_ok_iff.mp written
    obtain ⟨accepted, rfl⟩ := checkedName_eq_ok.mp written
    exact accepted

theorem WordRun.of_columnName {name text : String}
    (written : columnName name = .ok text) : WordRun text.toList :=
  .of_isIdentifier (isIdentifier_of_columnName written)

theorem WordRun.of_checkedName {role : NameRole} {name text : String}
    (written : checkedName role name = .ok text) : WordRun text.toList := by
  obtain ⟨accepted, rfl⟩ := checkedName_eq_ok.mp written
  exact .of_isIdentifier accepted

theorem blobFunction_eq_ok {typeName text : String} :
    blobFunction typeName = .ok text ↔
      isIdentifier typeName.toList ∧ text = typeName ++ "AsBlob" := by
  unfold blobFunction checkedName
  split <;> rename_i accepted <;> simp [accepted, Except.map, eq_comm]

theorem WordRun.of_blobFunction {typeName text : String}
    (written : blobFunction typeName = .ok text) : WordRun text.toList := by
  obtain ⟨accepted, rfl⟩ := blobFunction_eq_ok.mp written
  rw [String.toList_append]
  exact (WordRun.of_isIdentifier accepted).append
    (WordRun.of_all rfl).characters

theorem WordRun.of_tableName {source : Source} {text : String}
    (written : source.tableName = .ok text) : WordRun text.toList := by
  unfold Source.tableName at written
  split at written
  · exact .of_checkedName written
  · exact .of_checkedName written
  · obtain ⟨keyspace, first, written⟩ := bind_eq_ok_iff.mp written
    obtain ⟨table, second, written⟩ := bind_eq_ok_iff.mp written
    cases written
    simp only [String.toList_append]
    exact ((WordRun.of_checkedName first).append
      (WordRun.of_all rfl).characters).append
      (WordRun.of_checkedName second).characters

/-! ## Digits -/

theorem isAlphanum_of_mem_toDigits {base number : Nat} {digit : Char}
    (least : 1 < base) (most : base ≤ 16)
    (member : digit ∈ Nat.toDigits base number) : digit.isAlphanum := by
  have single : ∀ number < 16, (Nat.digitChar number).isAlphanum := by decide
  induction number using Nat.strongRecOn with
  | _ number ih =>
      rw [Nat.toDigits_eq_if least] at member
      split at member
      · rw [List.mem_singleton.mp member]
        exact single number (by omega)
      · rcases List.mem_append.mp member with member | member
        · exact ih _ (Nat.div_lt_self (by omega) least) member
        · rw [List.mem_singleton.mp member]
          have := Nat.mod_lt number (show 0 < base by omega)
          exact single _ (by omega)

theorem WordRun.toDigits {base : Nat} (least : 1 < base) (most : base ≤ 16)
    (number : Nat) : WordRun (Nat.toDigits base number) :=
  ⟨Nat.toDigits_ne_nil, fun _ member =>
    isWordCharacter_of_isAlphanum
      (isAlphanum_of_mem_toDigits least most member)⟩

theorem WordRun.zeros_append {digits : List Char} (run : WordRun digits)
    (count : Nat) : WordRun (List.replicate count '0' ++ digits) := by
  constructor
  · simp [run.nonempty]
  · intro character member
    rcases List.mem_append.mp member with member | member
    · rw [(List.mem_replicate.mp member).2]
      decide
    · exact run.characters character member

theorem WordRun.paddedDigits (width number : Nat) :
    WordRun (paddedDigits width number).toList := by
  rw [Text.paddedDigits, String.toList_ofList]
  exact (WordRun.toDigits (by decide) (by decide) number).zeros_append _

theorem WordRun.paddedHex (width number : Nat) :
    WordRun (paddedHex width number).toList := by
  rw [Text.paddedHex, String.toList_ofList]
  exact (WordRun.toDigits (by decide) (by decide) number).zeros_append _

end StructuredCql
