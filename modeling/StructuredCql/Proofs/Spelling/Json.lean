import StructuredCql.Json.Reader
import StructuredCql.Proofs.Entries
import StructuredCql.Proofs.Spelling

/-!
# What JSON texts hold

The values that the reader of JSON gives: single values of five kinds, lists,
and mappings with distinct texts as their keys.
-/

namespace StructuredCql

namespace Json

theorem isJson_of_readWord? {first : Char} {text : List Char} {value : Value}
    {rest : Rest text} (read : readWord? first text = some (value, rest)) :
    value.IsJson := by
  obtain ⟨⟨tail, word⟩, known, read⟩ := Option.bind_eq_some_iff.mp read
  obtain ⟨after, _, read⟩ := Option.bind_eq_some_iff.mp read
  cases read
  unfold wordTail? at known
  split at known <;> cases known <;> constructor

theorem isJson_of_readNumber {negative : Bool} {text : List Char}
    {value : Value} {rest : Shorter text}
    (read : readNumber negative text = some (.ok (value, rest))) :
    value.IsJson := by
  unfold readNumber at read
  split at read
  · cases read
  · next afterComma _ _ _ =>
    have blanks := (skipBlanks afterComma).2
    dsimp only at read
    split at read
    · split at read
      · cases read
      · cases read
        exact .int _
    · cases read
      exact .float _

theorem isJson_of_readSimple {text : List Char} {value : Value}
    {rest : Shorter text} (read : readSimple text = .ok (value, rest)) :
    value.IsJson := by
  unfold readSimple at read
  split at read
  · cases read
  · next first text =>
    split at read
    · next found =>
      cases read
      exact isJson_of_readWord? found
    · split at read
      · split at read
        · next found =>
          cases read
          exact isJson_of_readNumber found
        · cases read
        · cases read
      · cases found : readNumber false (first :: text) with
        | none => simp [found, faultAt] at read
        | some outcome =>
            rw [found, Option.getD_some] at read
            rw [read] at found
            exact isJson_of_readNumber found

structure GivesJson (text : List Char) : Prop where
  value : ∀ {value rest}, readValue text = .ok (value, rest) → value.IsJson
  members : ∀ {members rest}, readMembers text = .ok (members, rest) →
    ∀ member ∈ members, member.2.IsJson
  furtherMembers : ∀ {members rest},
    readFurtherMembers text = .ok (members, rest) →
    ∀ member ∈ members, member.2.IsJson
  items : ∀ {items rest}, readItems text = .ok (items, rest) →
    ∀ item ∈ items, item.IsJson
  furtherItems : ∀ {items rest}, readFurtherItems text = .ok (items, rest) →
    ∀ item ∈ items, item.IsJson

section Readers

variable {text : List Char}
  (shorter : ∀ part : List Char, part.length < text.length → GivesJson part)

include shorter

private theorem isJson_of_readValue {value : Value} {rest : Shorter text}
    (read : readValue text = .ok (value, rest)) : value.IsJson := by
  unfold readValue at read
  split at read
  · exact isJson_of_readSimple read
  · next first tail =>
    have inner : GivesJson (skipBlanks tail).1 := shorter _ <|
      Nat.lt_succ_of_le (skipBlanks tail).2
    split at read
    · split at read
      · cases read
      · cases read
        exact .text _
    · split at read
      · split at read
        · cases read
          change (Value.mapping (Record.texts [])).IsJson
          exact .mapping .nil (by simp)
        · split at read
          · cases read
          · next found =>
            cases read
            exact .mapping (Entries.nodup_keys_ofPairs _)
              (Entries.forall_mem_ofPairs (inner.members found))
      · split at read
        · split at read
          · cases read
            exact .list (by simp)
          · split at read
            · cases read
            · next found =>
              cases read
              exact .list (inner.items found)
        · exact isJson_of_readSimple read

private theorem isJson_of_readMembers {members : List (String × Value)}
    {rest : Shorter text} (read : readMembers text = .ok (members, rest)) :
    ∀ member ∈ members, member.2.IsJson := by
  unfold readMembers at read
  split at read
  · split at read
    · cases read
    · split at read
      · cases read
      · next afterColon _ _ =>
        have blanks := (skipBlanks afterColon).2
        dsimp only at read
        split at read
        · cases read
        · next found =>
          split at read
          · cases read
          · next foundRest =>
            cases read
            simp only [List.length_cons] at shorter
            exact List.forall_mem_cons.mpr
              ⟨(shorter _ (by omega)).value found,
                (shorter _ (by omega)).furtherMembers foundRest⟩
  · cases read

private theorem isJson_of_readFurtherMembers
    {members : List (String × Value)} {rest : Shorter text}
    (read : readFurtherMembers text = .ok (members, rest)) :
    ∀ member ∈ members, member.2.IsJson := by
  unfold readFurtherMembers at read
  split at read
  · cases read
    simp
  · cases read
  · next afterComma _ _ _ =>
    have blanks := (skipBlanks afterComma).2
    dsimp only at read
    split at read
    · cases read
    · next found =>
      cases read
      exact (shorter _ (by omega)).members found

private theorem isJson_of_readItems {items : List Value} {rest : Shorter text}
    (read : readItems text = .ok (items, rest)) :
    ∀ item ∈ items, item.IsJson := by
  unfold readItems at read
  split at read
  · cases read
  · next found =>
    split at read
    · cases read
    · next foundRest =>
      cases read
      exact List.forall_mem_cons.mpr
        ⟨isJson_of_readValue shorter found,
          (shorter _ (by omega)).furtherItems foundRest⟩

private theorem isJson_of_readFurtherItems {items : List Value}
    {rest : Shorter text} (read : readFurtherItems text = .ok (items, rest)) :
    ∀ item ∈ items, item.IsJson := by
  unfold readFurtherItems at read
  split at read
  · cases read
    simp
  · cases read
  · next afterComma _ _ _ =>
    have blanks := (skipBlanks afterComma).2
    dsimp only at read
    split at read
    · cases read
    · next found =>
      cases read
      exact (shorter _ (by omega)).items found

end Readers

theorem givesJson (text : List Char) : GivesJson text := by
  induction length : text.length using Nat.strongRecOn generalizing text with
  | _ length ih =>
      subst length
      have shorter : ∀ part : List Char, part.length < text.length →
          GivesJson part := fun part less => ih _ less part rfl
      exact {
        value := isJson_of_readValue shorter
        members := isJson_of_readMembers shorter
        furtherMembers := isJson_of_readFurtherMembers shorter
        items := isJson_of_readItems shorter
        furtherItems := isJson_of_readFurtherItems shorter }

theorem isJson_of_read {text : List Char} {value : Value}
    (accepted : read text = .ok value) : value.IsJson := by
  unfold read at accepted
  split at accepted
  · cases accepted
  · split at accepted
    · cases accepted
    · next found =>
      split at accepted
      · cases accepted
        exact (givesJson _).value found
      · cases accepted

end Json

end StructuredCql
