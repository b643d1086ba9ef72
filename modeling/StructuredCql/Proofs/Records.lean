import Mathlib.Data.List.Nodup
import StructuredCql.Reading.Record

/-!
# Records and their keys

What it means for the entries of a mapping that a record is read from them:
each key is one of the fields, and a field that is found is one of the entries.
-/

namespace StructuredCql

theorem mem_of_lookup {κ β : Type} [BEq κ] [LawfulBEq κ]
    {pairs : List (κ × β)} {key : κ} {value : β}
    (found : pairs.lookup key = some value) : (key, value) ∈ pairs := by
  obtain ⟨before, after, rfl, _⟩ := List.lookup_eq_some_iff.mp found
  simp

theorem lookup_eq_some_iff_mem {κ β : Type} [BEq κ] [LawfulBEq κ]
    {pairs : List (κ × β)} (distinct : (pairs.map Prod.fst).Nodup) {key : κ}
    {value : β} : pairs.lookup key = some value ↔ (key, value) ∈ pairs := by
  constructor
  · exact mem_of_lookup
  · intro member
    cases found : pairs.lookup key with
    | none => simpa using List.lookup_eq_none_iff.mp found _ member
    | some other =>
        cases List.inj_on_of_nodup_map distinct (mem_of_lookup found) member rfl
        rfl

namespace Record

variable {α : Type} {entries : List (Value × α)} {name : String}

theorem exists_mem_of_find? {value : α}
    (found : find? name entries = some value) :
    ∃ key, (key, value) ∈ entries ∧ key.letters? = some name := by
  induction entries with
  | nil => simp [find?] at found
  | cons entry rest ih =>
      obtain ⟨key, first⟩ := entry
      rw [find?] at found
      split at found
      · next isKey =>
        cases found
        exact ⟨key, List.mem_cons_self, Value.isKey_iff.mp isKey⟩
      · obtain ⟨other, member, letters⟩ := ih found
        exact ⟨other, List.mem_cons_of_mem _ member, letters⟩

theorem has_iff :
    has name entries = true ↔
      ∃ entry ∈ entries, entry.1.letters? = some name := by
  constructor
  · intro present
    obtain ⟨value, found⟩ := Option.isSome_iff_exists.mp present
    obtain ⟨key, member, letters⟩ := exists_mem_of_find? found
    exact ⟨(key, value), member, letters⟩
  · intro present
    induction entries with
    | nil => simp at present
    | cons entry rest ih =>
        obtain ⟨key, value⟩ := entry
        unfold has at ih ⊢
        rw [find?]
        split
        · rfl
        · next other =>
          obtain ⟨entry, member, letters⟩ := present
          rcases List.mem_cons.mp member with rfl | member
          · exact absurd (Value.isKey_iff.mpr letters) other
          · exact ih ⟨entry, member, letters⟩

theorem has_of_required {β : Type} {read : α → Reading β} {result : β}
    (present : required entries name read = .ok result) :
    has name entries = true := by
  obtain ⟨value, found, _⟩ := required_eq_ok.mp present
  simp [has, found]

theorem keyIssue?_eq_none_iff {fields : List String} {key : Value} :
    keyIssue? fields key = none ↔
      ∃ name ∈ fields, key.letters? = some name := by
  unfold keyIssue?
  cases key.letters? with
  | none => simp
  | some name => simp

theorem closed_eq_ok_iff {fields : List String} :
    closed entries fields = .ok () ↔
      ∀ entry ∈ entries, ∃ name ∈ fields, entry.1.letters? = some name := by
  simp only [← keyIssue?_eq_none_iff]
  rw [← List.filterMap_eq_nil_iff
    (f := fun entry : Value × α => keyIssue? fields entry.1)]
  unfold closed
  split
  · next none => exact iff_of_true rfl none
  · next some => exact iff_of_false (by simp) some

end Record

end StructuredCql
