import Mathlib.Data.List.TakeWhile
import StructuredCql.Literal
import StructuredCql.Proofs.BareWords
import StructuredCql.Proofs.Outcomes

/-!
# Names

A name is a letter or an underscore, and then letters, digits and underscores.
Only names are written, apart from one exception: a line break may stand
behind the last character.  Columns, types, tables and keyspaces are all held
to this rule, in each of their forms.
-/

namespace StructuredCql

open StructuredCql.Text

inductive IsName : List Char → Prop
  | intro {first : Char} {rest : List Char} :
      (first.isAlpha ∨ first = '_') →
      (∀ character ∈ rest, character.isAlphanum ∨ character = '_') →
      IsName (first :: rest)

/-- What is taken for a name: a name, or a name with a line break at its
end. -/
def Nameable (text : List Char) : Prop :=
  IsName text ∨ ∃ name, IsName name ∧ text = name ++ ['\n']

theorem IsName.characters {name : List Char} (isName : IsName name) :
    ∀ character ∈ name, character.isAlphanum ∨ character = '_' := by
  obtain ⟨first, others⟩ := isName
  intro character member
  rcases List.mem_cons.mp member with rfl | member
  · rcases first with alpha | rfl
    · exact .inl (by simp [Char.isAlphanum, alpha])
    · exact .inr rfl
  · exact others character member

namespace Nameable

theorem characters {text : List Char} (nameable : Nameable text) :
    ∀ character ∈ text,
      (character.isAlphanum ∨ character = '_') ∨ character = '\n' := by
  intro character member
  rcases nameable with isName | ⟨name, isName, rfl⟩
  · exact .inl (isName.characters character member)
  · rcases List.mem_append.mp member with member | member
    · exact .inl (isName.characters character member)
    · exact .inr (List.mem_singleton.mp member)

theorem point_not_mem {text : List Char} (nameable : Nameable text) :
    '.' ∉ text := by
  intro member
  have := nameable.characters '.' member
  revert this
  decide

end Nameable

theorem isName_iff {text : List Char} :
    IsName text ↔ Nameable text ∧ '\n' ∉ text := by
  constructor
  · intro isName
    refine ⟨.inl isName, fun member => ?_⟩
    have := isName.characters '\n' member
    revert this
    decide
  · rintro ⟨isName | ⟨name, _, rfl⟩, unbroken⟩
    · exact isName
    · simp at unbroken

/-! ## Identifiers -/

private theorem isIdentifierTail_iff {rest : List Char} :
    isIdentifierTail rest ↔
      (∀ character ∈ rest, character.isAlphanum ∨ character = '_') ∨
        ∃ before,
          (∀ character ∈ before, character.isAlphanum ∨ character = '_') ∧
            rest = before ++ ['\n'] := by
  induction rest using isIdentifierTail.induct with
  | case1 => simp [isIdentifierTail]
  | case2 => simp [isIdentifierTail]
  | case3 first rest notBreak ih =>
      have part : isIdentifierPart first ↔ first.isAlphanum ∨ first = '_' := by
        simp [isIdentifierPart]
      rw [isIdentifierTail.eq_3 _ _ notBreak, Bool.and_eq_true, part, ih,
        List.forall_mem_cons]
      constructor
      · rintro ⟨isPart, all | ⟨before, all, rfl⟩⟩
        · exact .inl ⟨isPart, all⟩
        · exact .inr ⟨first :: before, List.forall_mem_cons.mpr ⟨isPart, all⟩,
            rfl⟩
      · rintro (⟨isPart, all⟩ | ⟨before, all, same⟩)
        · exact ⟨isPart, .inl all⟩
        · cases before with
          | nil =>
              cases same
              exact absurd rfl (notBreak rfl)
          | cons character before =>
              cases same
              obtain ⟨isPart, all⟩ := List.forall_mem_cons.mp all
              exact ⟨isPart, .inr ⟨before, all, rfl⟩⟩

theorem isIdentifier_iff {text : List Char} :
    isIdentifier text ↔ Nameable text := by
  cases text with
  | nil =>
      refine iff_of_false (by simp [isIdentifier]) ?_
      intro nameable
      rcases nameable with isName | ⟨name, _, same⟩
      · cases isName
      · simp at same
  | cons first rest =>
      have start : isIdentifierStart first ↔ first.isAlpha ∨ first = '_' := by
        simp [isIdentifierStart]
      rw [isIdentifier, Bool.and_eq_true, start, isIdentifierTail_iff]
      constructor
      · rintro ⟨isStart, all | ⟨before, all, rfl⟩⟩
        · exact .inl ⟨isStart, all⟩
        · exact .inr ⟨first :: before, ⟨isStart, all⟩, rfl⟩
      · rintro (⟨isStart, all⟩ | ⟨name, ⟨isStart, all⟩, same⟩)
        · exact ⟨isStart, .inl all⟩
        · cases same
          exact ⟨isStart, .inr ⟨_, all, rfl⟩⟩

theorem checkedName_eq_ok_iff {role : NameRole} {name text : String} :
    checkedName role name = .ok text ↔
      Nameable name.toList ∧ text = name := by
  rw [checkedName_eq_ok, isIdentifier_iff]

theorem Value.checkedName_text (role : NameRole) (name : String) :
    (Value.text name).checkedName role =
      StructuredCql.checkedName role name := rfl

/-! ## Columns -/

theorem columnName_of_not_mem {name : String} (plain : '.' ∉ name.toList) :
    columnName name = checkedName .identifier name := by
  have none : name.toList.dropWhile (· != '.') = [] := by
    simp only [List.dropWhile_eq_nil_iff, bne_iff_ne]
    rintro character member rfl
    exact plain member
  simp only [columnName, none]

theorem columnName_append {qualifier : String} (column : String)
    (plain : '.' ∉ qualifier.toList) :
    columnName (qualifier ++ "." ++ column) = (do
      let _ ← checkedName .identifier qualifier
      checkedName .identifier column) := by
  have before : ∀ character ∈ qualifier.toList,
      (character != '.') = true := by
    rintro character member
    rw [bne_iff_ne]
    rintro rfl
    exact plain member
  have whole : (qualifier ++ "." ++ column).toList =
      qualifier.toList ++ '.' :: column.toList := by
    simp
  have dropped : (qualifier ++ "." ++ column).toList.dropWhile (· != '.') =
      '.' :: column.toList := by
    rw [whole, List.dropWhile_append_of_pos before]
    rfl
  have taken : (qualifier ++ "." ++ column).toList.takeWhile (· != '.') =
      qualifier.toList := by
    rw [whole, List.takeWhile_append_of_pos before]
    simp
  simp only [columnName, dropped, taken, String.ofList_toList]

theorem exists_qualifier {name : String} (qualified : '.' ∈ name.toList) :
    ∃ qualifier column : String, '.' ∉ qualifier.toList ∧
      name = qualifier ++ "." ++ column := by
  obtain ⟨before, after, same, plain⟩ := List.eq_append_cons_of_mem qualified
  refine ⟨String.ofList before, String.ofList after, by simpa using plain, ?_⟩
  rw [← String.toList_inj]
  simpa using same

/-- A column is a name, with or without another name as its qualifier, and the
qualifier is left out. -/
theorem columnName_eq_ok_iff {name text : String} :
    columnName name = .ok text ↔
      Nameable name.toList ∧ text = name ∨
        ∃ qualifier column : String, name = qualifier ++ "." ++ column ∧
          Nameable qualifier.toList ∧ Nameable column.toList ∧
          text = column := by
  by_cases qualified : '.' ∈ name.toList
  · obtain ⟨qualifier, column, plain, rfl⟩ := exists_qualifier qualified
    rw [columnName_append column plain]
    constructor
    · intro written
      obtain ⟨_, first, second⟩ := bind_eq_ok_iff.mp written
      obtain ⟨isQualifier, -⟩ := checkedName_eq_ok_iff.mp first
      obtain ⟨isColumn, rfl⟩ := checkedName_eq_ok_iff.mp second
      exact .inr ⟨qualifier, _, rfl, isQualifier, isColumn, rfl⟩
    · rintro (⟨nameable, -⟩ | ⟨other, rest, same, isQualifier, isColumn, rfl⟩)
      · exact absurd qualified nameable.point_not_mem
      · rw [← columnName_append column plain, same,
          columnName_append _ isQualifier.point_not_mem,
          checkedName_eq_ok_iff.mpr ⟨isQualifier, rfl⟩]
        exact checkedName_eq_ok_iff.mpr ⟨isColumn, rfl⟩
  · rw [columnName_of_not_mem qualified, checkedName_eq_ok_iff]
    constructor
    · exact .inl
    · rintro (named | ⟨qualifier, column, rfl, -⟩)
      · exact named
      · simp at qualified

/-! ## Tables and types -/

theorem Source.tableName_eq_ok_iff {source : Source} {text : String} :
    source.tableName = .ok text ↔
      Nameable source.table.toList ∧
        ((source.keyspace = none ∨ source.keyspace = some "") ∧
            text = source.table ∨
          ∃ keyspace, source.keyspace = some keyspace ∧
            Nameable keyspace.toList ∧
            text = keyspace ++ "." ++ source.table) := by
  have void : ¬ Nameable "".toList := by
    rw [← isIdentifier_iff]
    decide
  obtain ⟨table, keyspace⟩ := source
  unfold Source.tableName
  split
  · next same =>
    cases same
    simp [checkedName_eq_ok_iff]
  · next same =>
    cases same
    rw [checkedName_eq_ok_iff]
    constructor
    · rintro ⟨isTable, rfl⟩
      exact ⟨isTable, .inl ⟨.inr rfl, rfl⟩⟩
    · rintro ⟨isTable, ⟨-, rfl⟩ | ⟨keyspace, same, isKeyspace, -⟩⟩
      · exact ⟨isTable, rfl⟩
      · cases same
        exact absurd isKeyspace void
  · next keyspace notVoid same =>
    cases same
    constructor
    · intro written
      obtain ⟨_, first, written⟩ := bind_eq_ok_iff.mp written
      obtain ⟨_, second, written⟩ := bind_eq_ok_iff.mp written
      cases written
      obtain ⟨isKeyspace, rfl⟩ := checkedName_eq_ok_iff.mp first
      obtain ⟨isTable, rfl⟩ := checkedName_eq_ok_iff.mp second
      exact ⟨isTable, .inr ⟨_, rfl, isKeyspace, rfl⟩⟩
    · rintro ⟨isTable, ⟨same | same, -⟩ | ⟨_, same, isKeyspace, rfl⟩⟩
      · cases same
      · cases same
        exact absurd rfl notVoid
      · cases same
        rw [checkedName_eq_ok_iff.mpr ⟨isKeyspace, rfl⟩,
          checkedName_eq_ok_iff.mpr ⟨isTable, rfl⟩]
        rfl

theorem Value.tableName_text (keyspace : Option String) (table : String) :
    Value.tableName ((keyspace.map .text).getD .null) (.text table) =
      Source.tableName ⟨table, keyspace⟩ := by
  unfold Source.tableName
  split
  · next none =>
    cases none
    rfl
  · next empty =>
    cases empty
    rfl
  · next keyspace notEmpty found =>
    cases found
    have written : (Value.text keyspace).isVoid = false := by
      simpa [Value.isVoid] using notEmpty
    rw [Option.map_some, Option.getD_some, Value.tableName, written]
    rfl

theorem blobFunction_eq_ok_iff {typeName text : String} :
    blobFunction typeName = .ok text ↔
      Nameable typeName.toList ∧ text = typeName ++ "AsBlob" := by
  rw [blobFunction_eq_ok, isIdentifier_iff]

end StructuredCql
