import StructuredCql.Proofs.Layout.Job
import StructuredCql.Proofs.Words

/-!
# Hints

A hint is the last that is written of a statement that reads, and it is written
as it is given.  It is taken if its words are the two words for filtering,
where the capital form of a letter may be a letter of ASCII although the letter
itself is none, and where more characters are blanks than ASCII has.  The main
statement says which hints are written, and which of them are spelled in ASCII.
-/

namespace StructuredCql

open StructuredCql.Text
open Piece

/-! ## Filtering -/

/-- The two words in capitals, with spaces between them and perhaps around
them. -/
def FilteringWords (isSpace : Char → Bool)
    (capital : List Char → List Char) (hint : List Char) : Prop :=
  ∃ before first between second after,
    hint = before ++ (first ++ (between ++ (second ++ after))) ∧
      between ≠ [] ∧
      (∀ character ∈ before ++ between ++ after, isSpace character) ∧
      capital first = "ALLOW".toList ∧ capital second = "FILTERING".toList

private theorem isBlank_eq_false_of_capitalized {word : List Char}
    (capitals : ∀ character ∈ capitalized word,
      isBlank character = false) :
    ∀ character ∈ word, isBlank character = false := by
  intro character member
  by_contra blank
  rw [Bool.not_eq_false] at blank
  have itself : character ∈ capitalized word :=
    List.mem_flatMap.mpr ⟨character, member, by
      simp [capitals_of_isBlank blank]⟩
  rw [capitals character itself] at blank
  cases blank

private theorem words_of_capitalized {word letters : List Char}
    (same : capitalized word = letters) (nonempty : letters ≠ [])
    (noBlank : letters.all (!isBlank ·)) : words word = [word] := by
  subst same
  rw [words_of_noBlank, if_neg]
  · rintro rfl
    exact nonempty rfl
  · exact isBlank_eq_false_of_capitalized (by simpa using noBlank)

private theorem capitalized_append (first second : List Char) :
    capitalized (first ++ second) = capitalized first ++ capitalized second :=
  List.flatMap_append

private theorem capitalized_space_cons (text : List Char) :
    capitalized (' ' :: text) = ' ' :: capitalized text := rfl

private theorem filteringWords_of_capitalized {hint : List Char}
    (same : capitalized (singleSpaced (words hint)) =
      "ALLOW".toList ++ ' ' :: "FILTERING".toList) :
    FilteringWords isBlank capitalized hint := by
  cases found : words hint with
  | nil =>
      rw [found] at same
      cases same
  | cons first others =>
      obtain ⟨before, rest, rfl, isBefore, firstPlain, stop, others_eq⟩ :=
        exists_of_words_eq_cons found
      rw [found] at same
      cases others with
      | nil =>
          have space : ' ' ∈ capitalized first := by
            rw [singleSpaced] at same
            rw [same]
            decide
          obtain ⟨character, member, inCapitals⟩ := List.mem_flatMap.mp space
          exact absurd inCapitals
            (space_not_mem_capitals (firstPlain character member))
      | cons second others =>
          rw [singleSpaced, capitalized_append, capitalized_space_cons] at same
          obtain ⟨isFirst, -, isSecond⟩ :=
            (List.append_cons_inj_of_notMem (by decide) (by decide)).mp
              same.symm
          obtain ⟨between, after, rfl, isBetween, secondPlain, -, none⟩ :=
            exists_of_words_eq_cons others_eq
          cases others with
          | nil =>
              have isAfter : ∀ character ∈ after, isBlank character := by
                intro character member
                simpa [none] using isBlank_or_mem_words member
              have parted : between ≠ [] := by
                rintro rfl
                cases second with
                | nil => cases isSecond
                | cons letter second =>
                    have isBlank := stop letter rfl
                    rw [secondPlain letter List.mem_cons_self] at isBlank
                    cases isBlank
              refine ⟨before, first, between, second, after, rfl, parted, ?_,
                isFirst.symm, isSecond.symm⟩
              simp only [List.forall_mem_append]
              exact ⟨⟨isBefore, isBetween⟩, isAfter⟩
          | cons third others =>
              have space : ' ' ∈ "FILTERING".toList := by
                rw [isSecond, singleSpaced, capitalized_append,
                  capitalized_space_cons]
                simp
              exact absurd space (by decide)

theorem isFilteringHint_iff {hint : List Char} :
    isFilteringHint hint ↔ FilteringWords isBlank capitalized hint := by
  have target : capitalized (singleSpaced (words hint)) =
      "ALLOW".toList ++ ' ' :: "FILTERING".toList ↔ isFilteringHint hint := by
    rw [isFilteringHint, decide_eq_true_eq]
    rfl
  rw [← target]
  constructor
  · exact filteringWords_of_capitalized
  · rintro ⟨before, first, between, second, after, rfl, some, spaces, isFirst,
      isSecond⟩
    simp only [List.forall_mem_append] at spaces
    obtain ⟨⟨isBefore, isBetween⟩, isAfter⟩ := spaces
    obtain ⟨blank, between, rfl⟩ := List.exists_cons_of_ne_nil some
    obtain ⟨isBlank, isBetween⟩ := List.forall_mem_cons.mp isBetween
    rw [words_blanks_append isBefore, List.cons_append,
      words_append_blank_cons isBlank, words_blanks_append isBetween,
      words_append_blanks isAfter,
      words_of_capitalized isFirst (by decide) rfl,
      words_of_capitalized isSecond (by decide) rfl]
    rw [List.singleton_append, singleSpaced, singleSpaced, capitalized_append,
      capitalized_space_cons, isFirst, isSecond]

/-! ## Spelling in ASCII -/

def isAsciiSpace (character : Char) : Bool :=
  character ∈ [' ', '\t', '\n', '\x0b', '\x0c', '\r']

/-- Of ASCII, and none of the separators from file to unit. -/
def isPlain (character : Char) : Bool :=
  character.toNat < 0x80 && !inRanges [(0x1C, 0x1F)] character.toNat

theorem isAsciiSpace_iff {character : Char} :
    isAsciiSpace character ↔ isBlank character ∧ isPlain character := by
  have listed : isAsciiSpace character ↔ character.toNat = 0x20 ∨
      0x9 ≤ character.toNat ∧ character.toNat ≤ 0xD := by
    simp only [isAsciiSpace, decide_eq_true_eq, List.mem_cons,
      List.not_mem_nil, or_false, ← Char.toNat_inj, Char.reduceToNat]
    omega
  rw [listed]
  simp only [isPlain, isBlank, isWhiteSpace, inRanges, whiteSpaceRanges,
    List.any_cons, List.any_nil, Bool.or_eq_true, Bool.and_eq_true,
    decide_eq_true_eq, Bool.or_false, Bool.not_eq_true', Bool.and_eq_false_iff,
    decide_eq_false_iff_not]
  omega

private theorem isPlain_of_isUpper_toUpper {character : Char}
    (capital : character.toUpper.isUpper) : isPlain character := by
  rw [Char.isUpper_toUpper_eq_isAlpha] at capital
  simp only [Char.isAlpha, Char.isUpper, Char.isLower, Bool.or_eq_true,
    Bool.and_eq_true, decide_eq_true_eq, UInt32.le_iff_toNat_le, ge_iff_le]
    at capital
  change 65 ≤ character.toNat ∧ character.toNat ≤ 90 ∨
    97 ≤ character.toNat ∧ character.toNat ≤ 122 at capital
  simp only [isPlain, inRanges, List.any_cons, List.any_nil, Bool.and_eq_true,
    decide_eq_true_eq, Bool.or_false, Bool.not_eq_true', Bool.and_eq_false_iff,
    decide_eq_false_iff_not]
  omega

private theorem plain_of_map_toUpper {word letters : List Char}
    (same : word.map Char.toUpper = letters)
    (capitals : letters.all Char.isUpper) :
    ∀ character ∈ word, isPlain character := by
  intro character member
  apply isPlain_of_isUpper_toUpper
  apply List.all_eq_true.mp capitals
  rw [← same]
  exact List.mem_map_of_mem member

private theorem capitalized_of_plain {word : List Char}
    (plain : ∀ character ∈ word, isPlain character) :
    capitalized word = word.map Char.toUpper := by
  refine capitalized_of_ascii fun character member => ?_
  have := plain character member
  simp only [isPlain, Bool.and_eq_true, decide_eq_true_eq] at this
  exact this.1

theorem FilteringWords.ascii_iff {hint : List Char} :
    FilteringWords isAsciiSpace (List.map Char.toUpper) hint ↔
      FilteringWords isBlank capitalized hint ∧
        ∀ character ∈ hint, isPlain character := by
  constructor
  · rintro ⟨before, first, between, second, after, rfl, parted, spaces,
      isFirst, isSecond⟩
    have firstPlain := plain_of_map_toUpper isFirst (by decide)
    have secondPlain := plain_of_map_toUpper isSecond (by decide)
    simp only [isAsciiSpace_iff] at spaces
    refine ⟨⟨before, first, between, second, after, rfl, parted,
      fun character member => (spaces character member).1, ?_, ?_⟩, ?_⟩
    · rw [capitalized_of_plain firstPlain, isFirst]
    · rw [capitalized_of_plain secondPlain, isSecond]
    · simp only [List.forall_mem_append] at spaces ⊢
      obtain ⟨⟨isBefore, isBetween⟩, isAfter⟩ := spaces
      exact ⟨fun _ member => (isBefore _ member).2, firstPlain,
        fun _ member => (isBetween _ member).2, secondPlain,
        fun _ member => (isAfter _ member).2⟩
  · rintro ⟨⟨before, first, between, second, after, rfl, parted, spaces,
      isFirst, isSecond⟩, plain⟩
    simp only [List.forall_mem_append] at spaces plain
    obtain ⟨⟨isBefore, isBetween⟩, isAfter⟩ := spaces
    obtain ⟨plainBefore, plainFirst, plainBetween, plainSecond, plainAfter⟩ :=
      plain
    refine ⟨before, first, between, second, after, rfl, parted, ?_, ?_, ?_⟩
    · simp only [List.forall_mem_append, isAsciiSpace_iff]
      exact ⟨⟨fun _ member => ⟨isBefore _ member, plainBefore _ member⟩,
        fun _ member => ⟨isBetween _ member, plainBetween _ member⟩⟩,
        fun _ member => ⟨isAfter _ member, plainAfter _ member⟩⟩
    · rw [← capitalized_of_plain plainFirst, isFirst]
    · rw [← capitalized_of_plain plainSecond, isSecond]

/-! ## Statements -/

/-- A hint is written behind what is made of the query without it. -/
theorem Query.compile_eq_of_hint {query : Query} {hint : String}
    (set : query.writtenHint = some hint) {operation : Value}
    (reading : operation.operation? = some .all) (options : Options) :
    query.compile operation options = (do
      let bare ← { query with hint := none }.compile operation options
      let clause ← hintClause hint
      pure { bare with text := bare.text ++ " " ++ clause }) := by
  have layout : query.readingLayout =
      { query with hint := none }.readingLayout ++
        [.plain " ", ofText (hintClause hint)] := by
    simp only [readingLayout, set, List.cons_append, separated_cons,
      Option.map_some, Option.toList_some]
    simp [writtenHint, hintLayout]
  unfold compile
  simp only [reading, textFor_eq, layoutFor, layout,
    Statement.ofBuild_writeAll]
  cases options.guard with
  | error cause => rfl
  | ok requested =>
      simp only [flaws_append, written_append, carried, List.filterMap_append]
      generalize { query with hint := none }.readingLayout = bare
      cases flaws bare with
      | cons cause others => rfl
      | nil =>
          cases hintClause hint with
          | error cause => rfl
          | ok clause =>
              have clauseText : written "?" [.plain " ", ofText (.ok clause)] =
                  " " ++ clause := by
                simp [written, ofText, textWith]
              have noValues : [.plain " ", ofText (.ok clause)].filterMap
                  value? = [] := rfl
              rw [clauseText, noValues, List.append_nil, ← String.append_assoc]
              rfl

theorem hintClause_eq_ok_iff {hint text : String} :
    hintClause hint = .ok text ↔
      FilteringWords isBlank capitalized hint.toList ∧ text = hint := by
  rw [← isFilteringHint_iff, hintClause]
  split
  · next accepted => simp [accepted, eq_comm]
  · next refused => simp [refused]

theorem hintClause_of_not {hint : String}
    (other : ¬ FilteringWords isBlank capitalized hint.toList) :
    hintClause hint = .error (.unsupportedHint hint) := by
  rw [hintClause, if_neg (by rwa [isFilteringHint_iff])]

/-- A statement that reads ends with the hint as it is given, if that consists
of the two words in the wider sense, and there is none otherwise.  The two
words in the narrower sense are those that hold no other character. -/
theorem Query.compile_hinted {query : Query} {hint : String}
    (set : query.hint = some hint) (nonempty : hint ≠ "")
    {operation : Value} (reading : operation.operation? = some .all)
    (options : Options) :
    (∀ statement, query.compile operation options = .ok statement ↔
      FilteringWords isBlank capitalized hint.toList ∧
        ∃ bare, { query with hint := none }.compile operation options =
            .ok bare ∧
          statement = { bare with text := bare.text ++ " " ++ hint }) ∧
    (∀ bare,
      { query with hint := none }.compile operation options = .ok bare →
      ¬ FilteringWords isBlank capitalized hint.toList →
      query.compile operation options = .error (.unsupportedHint hint)) ∧
    (FilteringWords isAsciiSpace (List.map Char.toUpper) hint.toList ↔
      FilteringWords isBlank capitalized hint.toList ∧
        ∀ character ∈ hint.toList, isPlain character) := by
  have written : query.writtenHint = some hint := by
    rw [writtenHint, set, Option.filter_some, if_pos]
    simpa using nonempty
  have whole := compile_eq_of_hint written reading options
  refine ⟨fun statement => ?_, fun bare made other => ?_,
    FilteringWords.ascii_iff⟩
  · rw [whole]
    constructor
    · intro made
      obtain ⟨bare, isBare, made⟩ := bind_eq_ok_iff.mp made
      obtain ⟨clause, accepted, made⟩ := bind_eq_ok_iff.mp made
      cases made
      obtain ⟨filtering, same⟩ := hintClause_eq_ok_iff.mp accepted
      rw [same]
      exact ⟨filtering, bare, isBare, rfl⟩
    · rintro ⟨filtering, bare, made, rfl⟩
      rw [made, hintClause_eq_ok_iff.mpr ⟨filtering, rfl⟩]
      rfl
  · rw [whole, made, hintClause_of_not other]
    rfl

def hintedSearch (hint : String) : Query :=
  { source := ⟨"users", none⟩
    selection := [], filter := none, grouping := [], ordering := []
    limit := none, hint := some hint, assignments := [] }

theorem compile_hinted_tabulated :
    (hintedSearch "allow\tFiltering").compile (.text "all") [] =
        .ok ⟨.all, "SELECT * FROM users allow\tFiltering", [], []⟩ ∧
      FilteringWords isAsciiSpace (List.map Char.toUpper)
        "allow\tFiltering".toList := by
  have filtering : FilteringWords isBlank capitalized
      "allow\tFiltering".toList :=
    ⟨[], "allow".toList, ['\t'], "Filtering".toList, [], by decide, by decide,
      by simp; rfl, by decide, by decide⟩
  have hinted := @Query.compile_hinted (hintedSearch "allow\tFiltering")
    "allow\tFiltering" rfl (by decide) (.text "all") rfl []
  exact ⟨(hinted.1 _).mpr ⟨filtering, _, by cbv, rfl⟩,
    hinted.2.2.mpr ⟨filtering, List.all_eq_true.mp rfl⟩⟩

theorem compile_hinted_ligature :
    (hintedSearch "ALLOW \uFB01ltering").compile (.text "all") [] =
        .ok ⟨.all, "SELECT * FROM users ALLOW \uFB01ltering", [], []⟩ ∧
      ¬ FilteringWords isAsciiSpace (List.map Char.toUpper)
        "ALLOW \uFB01ltering".toList := by
  refine ⟨by cbv, fun filtering => ?_⟩
  have plain := (FilteringWords.ascii_iff.mp filtering).2 '\uFB01' (by decide)
  cases plain

end StructuredCql
