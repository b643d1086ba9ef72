import Mathlib
import StructuredCql.Text.Verbatim

/-!
# Words

The words of a text are parted by blanks, and a blank parts the words before
it from the words behind it.  What is blank has no other capital form, and no
capital form holds a blank otherwise.
-/

namespace StructuredCql

namespace Text

private def extended (character : Char)
    (found : List Char × List (List Char)) : List Char × List (List Char) :=
  if isBlank character then
    ([], if found.1.isEmpty then found.2 else found.1 :: found.2)
  else
    (character :: found.1, found.2)

private def collected (found : List Char × List (List Char)) :
    List (List Char) :=
  if found.1.isEmpty then found.2 else found.1 :: found.2

private theorem words_eq (text : List Char) :
    words text = collected (text.foldr extended ([], [])) := rfl

theorem words_append_blank_cons {blank : Char} (isBlank : isBlank blank)
    (before after : List Char) :
    words (before ++ blank :: after) = words before ++ words after := by
  have start : (blank :: after).foldr extended ([], []) =
      ([], words after) := by
    rw [List.foldr_cons, extended, if_pos isBlank]
    rfl
  -- what is behind the blank goes along unchanged
  have behind : before.foldr extended ([], words after) =
      ((before.foldr extended ([], [])).1,
        (before.foldr extended ([], [])).2 ++ words after) := by
    induction before with
    | nil => rfl
    | cons character before ih =>
        rw [List.foldr_cons, List.foldr_cons, ih, extended, extended]
        split <;> simp
        split <;> simp
  rw [words_eq, List.foldr_append, start, behind, words_eq before, collected,
    collected]
  split <;> simp_all

theorem words_blank_cons {blank : Char} (isBlank : isBlank blank)
    (text : List Char) : words (blank :: text) = words text :=
  words_append_blank_cons isBlank [] text

theorem words_blanks_append {before : List Char}
    (blanks : ∀ character ∈ before, isBlank character) (text : List Char) :
    words (before ++ text) = words text := by
  induction before with
  | nil => rfl
  | cons blank before ih =>
      obtain ⟨isBlank, blanks⟩ := List.forall_mem_cons.mp blanks
      rw [List.cons_append, words_blank_cons isBlank, ih blanks]

theorem words_of_blanks {text : List Char}
    (blanks : ∀ character ∈ text, isBlank character) : words text = [] := by
  rw [← List.append_nil text, words_blanks_append blanks]
  rfl

theorem words_append_blanks {after : List Char}
    (blanks : ∀ character ∈ after, isBlank character) (text : List Char) :
    words (text ++ after) = words text := by
  cases after with
  | nil => rw [List.append_nil]
  | cons blank after =>
      obtain ⟨isBlank, blanks⟩ := List.forall_mem_cons.mp blanks
      rw [words_append_blank_cons isBlank, words_of_blanks blanks,
        List.append_nil]

@[elab_as_elim]
theorem wordInduction {motive : List Char → Prop}
    (word : ∀ text, (∀ character ∈ text, isBlank character = false) →
      motive text)
    (parted : ∀ before blank after,
      (∀ character ∈ before, isBlank character = false) → isBlank blank →
      motive after → motive (before ++ blank :: after))
    (text : List Char) : motive text := by
  induction length : text.length using Nat.strongRecOn generalizing text with
  | _ _ ih =>
  subst length
  have parts := @List.takeWhile_append_dropWhile _ (!isBlank ·) text
  have noBlank : ∀ character ∈ text.takeWhile (!isBlank ·),
      isBlank character = false := fun character member => by
    simpa using List.mem_takeWhile_imp member
  have stop := List.head?_dropWhile_not (!isBlank ·) text
  cases after : text.dropWhile (!isBlank ·) with
  | nil =>
      rw [after, List.append_nil] at parts
      rw [parts] at noBlank
      exact word text noBlank
  | cons blank rest =>
      rw [after] at parts stop
      have shorter : rest.length < text.length := by
        rw [← parts, List.length_append, List.length_cons]
        omega
      rw [← parts]
      exact parted _ blank rest noBlank (by simpa using stop)
        (ih _ shorter rest rfl)

theorem words_of_noBlank {text : List Char}
    (noBlank : ∀ character ∈ text, isBlank character = false) :
    words text = if text = [] then [] else [text] := by
  have whole : text.foldr extended ([], []) = (text, []) := by
    induction text with
    | nil => rfl
    | cons character text ih =>
        obtain ⟨plain, noBlank⟩ := List.forall_mem_cons.mp noBlank
        rw [List.foldr_cons, ih noBlank, extended, plain]
        rfl
  rw [words_eq, whole, collected]
  simp

theorem isBlank_or_mem_words {text : List Char} {character : Char}
    (member : character ∈ text) :
    isBlank character ∨ ∃ word ∈ words text, character ∈ word := by
  have inWord {run : List Char}
      (noBlank : ∀ character ∈ run, isBlank character = false)
      (inRun : character ∈ run) : run ∈ words run := by
    rw [words_of_noBlank noBlank, if_neg (List.ne_nil_of_mem inRun)]
    exact List.mem_singleton_self run
  induction text using wordInduction with
  | word text noBlank => exact .inr ⟨text, inWord noBlank member, member⟩
  | parted before blank after noBlank isBlank ih =>
      rw [words_append_blank_cons isBlank]
      rcases List.mem_append.mp member with inBefore | member
      · exact .inr ⟨before, List.mem_append_left _ (inWord noBlank inBefore),
          inBefore⟩
      · rcases List.mem_cons.mp member with rfl | inAfter
        · exact .inl isBlank
        · refine (ih inAfter).imp_right ?_
          rintro ⟨word, isWord, inWord⟩
          exact ⟨word, List.mem_append_right _ isWord, inWord⟩

theorem exists_of_words_eq_cons {text word : List Char}
    {others : List (List Char)} (found : words text = word :: others) :
    ∃ before after, text = before ++ (word ++ after) ∧
      (∀ character ∈ before, isBlank character) ∧
      (∀ character ∈ word, isBlank character = false) ∧
      (∀ next ∈ after.head?, isBlank next) ∧ words after = others := by
  induction text using wordInduction with
  | word text noBlank =>
      rw [words_of_noBlank noBlank] at found
      split at found
      · cases found
      · cases found
        exact ⟨[], [], by simp, by simp, noBlank, by simp, rfl⟩
  | parted before blank after noBlank isBlank ih =>
      rw [words_append_blank_cons isBlank, words_of_noBlank noBlank] at found
      split at found
      · next empty =>
        subst empty
        obtain ⟨blanks, rest, rfl, areBlank, further⟩ := ih found
        exact ⟨blank :: blanks, rest, rfl,
          List.forall_mem_cons.mpr ⟨isBlank, areBlank⟩, further⟩
      · cases found
        refine ⟨[], blank :: after, rfl, by simp, noBlank, ?_,
          words_blank_cons isBlank after⟩
        rintro _ ⟨⟩
        exact isBlank

/-! ## Capital letters -/

private theorem isLower_iff {character : Char} :
    character.isLower ↔ 97 ≤ character.toNat ∧ character.toNat ≤ 122 := by
  simp only [Char.isLower, Bool.and_eq_true, decide_eq_true_eq,
    UInt32.le_iff_toNat_le]
  rfl

theorem capitals_of_isBlank {character : Char} (blank : isBlank character) :
    capitals character = [character] := by
  simp only [isBlank, isWhiteSpace, inRanges, whiteSpaceRanges, List.any_cons,
    List.any_nil, Bool.or_eq_true, Bool.and_eq_true, decide_eq_true_eq,
    Bool.or_false] at blank
  have notLower : ¬ character.isLower := by
    rw [isLower_iff]
    omega
  rw [capitals, if_neg notLower]
  split <;> first | rfl | omega

theorem space_not_mem_capitals {character : Char}
    (notBlank : isBlank character = false) : ' ' ∉ capitals character := by
  unfold capitals
  split
  · next isLower =>
    intro member
    have isUpper := character.isUpper_toUpper_eq_isAlpha
    rw [← List.mem_singleton.mp member, Char.isAlpha, isLower, Bool.or_true]
      at isUpper
    cases isUpper
  · split
    case h_11 =>
      intro member
      rw [← List.mem_singleton.mp member] at notBlank
      cases notBlank
    all_goals decide

theorem capitals_of_ascii {character : Char} (ascii : character.toNat < 128) :
    capitals character = [character.toUpper] := by
  unfold capitals
  split
  · rfl
  · next notLower =>
    rw [Char.toUpper_eq_of_not_isLower notLower]
    split <;> first | rfl | omega

theorem capitalized_of_ascii {text : List Char}
    (ascii : ∀ character ∈ text, character.toNat < 128) :
    capitalized text = text.map Char.toUpper := by
  rw [capitalized, List.map_eq_flatMap]
  exact List.flatMap_congr fun character member =>
    capitals_of_ascii (ascii character member)

end Text

end StructuredCql
