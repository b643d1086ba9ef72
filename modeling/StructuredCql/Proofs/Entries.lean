import Mathlib.Data.List.Induction
import Mathlib.Data.List.Nodup
import StructuredCql.Value

/-!
# Finite maps

Putting a value under a key that is there keeps all keys, and under another one
adds it at the end.  So a finite map has distinct keys, and pairs with distinct
keys are a finite map as they are.
-/

namespace StructuredCql.Entries

variable {κ α : Type} [DecidableEq κ] {key : κ} {value : α}
  {entries pairs : List (κ × α)} {property : α → Prop}

theorem put_of_not_mem (absent : key ∉ entries.map Prod.fst) :
    put (· = ·) key value entries = entries ++ [(key, value)] := by
  induction entries with
  | nil => rfl
  | cons entry rest ih =>
      simp only [List.map_cons, List.mem_cons, not_or] at absent
      simp [put, Ne.symm absent.1, ih absent.2]

theorem keys_put_of_mem (member : key ∈ entries.map Prod.fst) :
    (put (· = ·) key value entries).map Prod.fst = entries.map Prod.fst := by
  induction entries with
  | nil => cases member
  | cons entry rest ih =>
      by_cases same : entry.1 = key
      · simp [put, same]
      · have further : key ∈ rest.map Prod.fst := by
          simpa [Ne.symm same] using member
        simpa [put, same] using ih further

theorem lookup_cons_eq_ite (entry : κ × α) (other : κ) :
    (entry :: entries).lookup other =
      if other = entry.1 then some entry.2 else entries.lookup other := by
  rw [List.lookup_cons]
  by_cases same : other = entry.1
  · simp [same]
  · simp [same, beq_eq_false_iff_ne.mpr same]

theorem lookup_map_snd {β : Type} (make : α → β) (key : κ) :
    (entries.map fun entry => (entry.1, make entry.2)).lookup key =
      (entries.lookup key).map make := by
  induction entries with
  | nil => rfl
  | cons entry rest ih =>
      rw [List.map_cons, lookup_cons_eq_ite, lookup_cons_eq_ite, ih]
      split <;> rfl

theorem lookup_put (other : κ) :
    (put (· = ·) key value entries).lookup other =
      if other = key then some value else entries.lookup other := by
  induction entries with
  | nil => exact lookup_cons_eq_ite (key, value) other
  | cons entry rest ih =>
      rw [put, lookup_cons_eq_ite]
      by_cases there : entry.1 = key
      · subst there
        simp only [decide_true, if_true, lookup_cons_eq_ite]
        split <;> rfl
      · simp only [there, decide_false, Bool.false_eq_true, if_false,
          lookup_cons_eq_ite, ih]
        split
        · next same => simp [same, there]
        · rfl

theorem nodup_keys_put (distinct : (entries.map Prod.fst).Nodup) :
    ((put (· = ·) key value entries).map Prod.fst).Nodup := by
  by_cases member : key ∈ entries.map Prod.fst
  · rwa [keys_put_of_mem member]
  · rw [put_of_not_mem member, List.map_append, List.nodup_append]
    refine ⟨distinct, List.nodup_singleton _, ?_⟩
    rintro present isPresent _ isNew rfl
    cases List.mem_singleton.mp isNew
    exact member isPresent

theorem forall_mem_put (new : property value)
    (each : ∀ entry ∈ entries, property entry.2) :
    ∀ entry ∈ put (· = ·) key value entries, property entry.2 := by
  induction entries with
  | nil => simpa [put] using new
  | cons entry rest ih =>
      obtain ⟨first, restHolds⟩ := List.forall_mem_cons.mp each
      rw [put]
      split
      · exact List.forall_mem_cons.mpr ⟨new, restHolds⟩
      · exact List.forall_mem_cons.mpr ⟨first, ih restHolds⟩

@[simp] theorem ofPairs_append_singleton (pairs : List (κ × α))
    (pair : κ × α) :
    ofPairs (· = ·) (pairs ++ [pair]) =
      put (· = ·) pair.1 pair.2 (ofPairs (· = ·) pairs) := by
  simp [ofPairs]

theorem keys_ofPairs (pairs : List (κ × α)) :
    (ofPairs (· = ·) pairs).map Prod.fst =
      (pairs.map Prod.fst).eraseDups := by
  -- from the right, as a pair is put into the map of the pairs before it
  induction pairs using List.reverseRecOn with
  | nil => rfl
  | append_singleton pairs pair ih =>
      rw [ofPairs_append_singleton, List.map_append, List.eraseDups_append,
        ← ih]
      by_cases member : pair.1 ∈ pairs.map Prod.fst
      · rw [keys_put_of_mem]
        · simp [List.removeAll, member]
        · rwa [ih, List.mem_eraseDups]
      · rw [put_of_not_mem]
        · simp [List.removeAll, member, List.eraseDups_cons]
        · rwa [ih, List.mem_eraseDups]

theorem lookup_ofPairs (pairs : List (κ × α)) (key : κ) :
    (ofPairs (· = ·) pairs).lookup key = pairs.reverse.lookup key := by
  induction pairs using List.reverseRecOn with
  | nil => rfl
  | append_singleton pairs pair ih =>
      rw [ofPairs_append_singleton, lookup_put, ih, List.reverse_concat,
        lookup_cons_eq_ite]

theorem nodup_keys_ofPairs (pairs : List (κ × α)) :
    ((ofPairs (· = ·) pairs).map Prod.fst).Nodup := by
  induction pairs using List.reverseRecOn with
  | nil => exact .nil
  | append_singleton pairs pair ih =>
      rw [ofPairs_append_singleton]
      exact nodup_keys_put ih

theorem forall_mem_ofPairs (each : ∀ pair ∈ pairs, property pair.2) :
    ∀ entry ∈ ofPairs (· = ·) pairs, property entry.2 := by
  induction pairs using List.reverseRecOn with
  | nil => exact fun _ member => absurd member List.not_mem_nil
  | append_singleton pairs pair ih =>
      rw [List.forall_mem_append, List.forall_mem_singleton] at each
      rw [ofPairs_append_singleton]
      exact forall_mem_put each.2 (ih each.1)

theorem ofPairs_of_nodup (distinct : (pairs.map Prod.fst).Nodup) :
    ofPairs (· = ·) pairs = pairs := by
  unfold ofPairs
  suffices appended : ∀ before : List (κ × α),
      ((before ++ pairs).map Prod.fst).Nodup →
      pairs.foldl (fun entries pair => put (· = ·) pair.1 pair.2 entries)
        before = before ++ pairs from appended [] distinct
  clear distinct
  induction pairs with
  | nil => simp
  | cons pair rest ih =>
      intro before distinct
      have absent : pair.1 ∉ before.map Prod.fst := by
        rw [List.map_append, List.nodup_append] at distinct
        intro member
        exact distinct.2.2 _ member _ (by simp) rfl
      rw [List.foldl_cons, put_of_not_mem absent, ih]
      · simp
      · simpa using distinct

end StructuredCql.Entries
