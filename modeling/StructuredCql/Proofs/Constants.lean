import StructuredCql.Proofs.BareWords
import StructuredCql.Value.Writable

/-!
# The spelling of constants

A constant is the quoted text of its value, or a bare word.  The bare ones are
truth values, numbers, identifiers and bytes.
-/

namespace StructuredCql

open StructuredCql.Text

/-! ## Numbers -/

theorem WordRun.nat_repr (number : Nat) : WordRun number.repr.toList := by
  rw [Nat.toList_repr]
  exact .toDigits (by decide) (by decide) number

theorem BareWord.int_repr (number : Int) : BareWord number.repr.toList := by
  rw [Int.repr_eq_if]
  split
  · exact (WordRun.nat_repr _).bareWord
  · rw [String.toList_append]
    exact (WordRun.nat_repr _).hyphen

namespace Decimal

theorem bareWord_signText_append (negative : Bool) {text : String}
    (run : WordRun text.toList) :
    BareWord (signText negative ++ text).toList := by
  rw [String.toList_append]
  cases negative with
  | false => exact run.bareWord
  | true => exact run.hyphen

theorem bareWord_signedText (number : Int) :
    BareWord (signedText number).toList := by
  unfold signedText
  split
  · rw [Int.toString_eq_repr]
    exact .int_repr number
  · rw [String.toList_append, Int.toString_eq_repr]
    exact .character (by decide) (.int_repr number)

theorem wordRun_pointed {digits : List Char} (run : WordRun digits)
    (place : Int) : WordRun (pointed digits place).toList := by
  have zeros (count : Nat) :
      ∀ character ∈ List.replicate count '0', isWordCharacter character := by
    intro character member
    rw [(List.mem_replicate.mp member).2]
    decide
  unfold pointed
  split
  · rw [String.toList_ofList]
    exact (show WordRun ['0', '.'] from .of_all rfl).append
      (run.zeros_append _).characters
  · split
    · rw [String.toList_ofList]
      exact run.append (zeros _)
    · rw [String.toList_ofList]
      constructor
      · simp
      · intro character member
        simp only [List.mem_append, List.mem_cons] at member
        rcases member with member | rfl | member
        · exact run.characters character (List.mem_of_mem_take member)
        · decide
        · exact run.characters character (List.mem_of_mem_drop member)

theorem bareWord_numeralText (numeral : Numeral) :
    BareWord (numeralText numeral).toList := by
  have digits : WordRun (Nat.toDigits 10 numeral.coefficient) :=
    .toDigits (by decide) (by decide) numeral.coefficient
  unfold numeralText
  dsimp only
  split
  · exact bareWord_signText_append _ (wordRun_pointed digits _)
  · split
    · exact bareWord_signText_append _ (wordRun_pointed digits _)
    · rw [← String.append_assoc, String.toList_append]
      refine BareWord.append ?_ (bareWord_signedText _)
      refine bareWord_signText_append _ ?_
      rw [String.toList_append]
      exact (wordRun_pointed digits 1).append (WordRun.of_all rfl).characters

theorem bareWord_text (decimal : Decimal) : BareWord decimal.text.toList := by
  cases decimal with
  | finite numeral => exact bareWord_numeralText numeral
  | infinite negative =>
      exact bareWord_signText_append negative (.of_all rfl)
  | notANumber negative signaling payload =>
      rw [text, String.append_assoc]
      refine bareWord_signText_append negative ?_
      rw [String.toList_append]
      refine WordRun.append ?_ ?_
      · cases signaling <;> exact .of_all rfl
      · split
        · simp
        · exact (WordRun.nat_repr payload).characters

end Decimal

namespace Binary64

theorem wordRun_withoutFinalZeros {digits : List Char}
    (run : WordRun digits) : WordRun (withoutFinalZeros digits) := by
  unfold withoutFinalZeros
  split
  · exact .of_all rfl
  · next nonempty =>
    refine ⟨nonempty, ?_⟩
    intro character member
    apply run.characters
    have := (List.dropWhile_suffix _).subset (List.mem_reverse.mp member)
    exact List.mem_reverse.mp this

theorem bareWord_lay (negative : Bool) (layout : Layout)
    {digits : List Char} (run : WordRun digits) (place : Int) :
    BareWord (Decimal.signText negative ++ layout.lay digits place).toList := by
  unfold Layout.lay
  dsimp only
  split
  · refine Decimal.bareWord_signText_append negative ?_
    split
    · rw [String.toList_append]
      exact (Decimal.wordRun_pointed run place).append
        (WordRun.of_all rfl).characters
    · exact Decimal.wordRun_pointed run place
  · rw [String.append_assoc, ← String.append_assoc, String.toList_append]
    refine BareWord.append ?_ ?_
    · refine Decimal.bareWord_signText_append negative ?_
      rw [String.toList_append]
      exact (Decimal.wordRun_pointed run 1).append
        (WordRun.of_all rfl).characters
    · have exponent := WordRun.paddedDigits layout.exponentWidth
        (place - 1).natAbs
      rw [String.toList_append]
      split
      · exact exponent.hyphen
      · exact .character (by decide) exponent.bareWord

theorem bareWord_magnitudeText (negative : Bool) (layout : Layout)
    (index : Nat) :
    BareWord
      (Decimal.signText negative ++ magnitudeText layout index).toList := by
  unfold magnitudeText
  split
  · exact Decimal.bareWord_signText_append negative (.of_all rfl)
  · have digits : WordRun (Nat.toDigits 10 (shortestDecimal index).1) :=
      .toDigits (by decide) (by decide) _
    exact bareWord_lay negative layout (wordRun_withoutFinalZeros digits) _

theorem bareWord_constant (number : Binary64) :
    BareWord number.constant.toList := by
  cases number with
  | notANumber =>
      exact (show WordRun "NaN".toList from .of_all rfl).bareWord
  | infinite negative =>
      have infinity : WordRun "Infinity".toList := .of_all rfl
      cases negative with
      | false => exact infinity.bareWord
      | true => exact infinity.hyphen
  | finite negative index =>
      exact bareWord_magnitudeText negative plainLayout index

end Binary64

/-! ## Identifiers and bytes -/

theorem Uuid.bareWord_text (uuid : Uuid) : BareWord uuid.text.toList := by
  have group {before : String} (word : BareWord before.toList)
      (width number : Nat) :
      BareWord (before ++ "-" ++ paddedHex width number).toList := by
    rw [String.append_assoc, String.toList_append, String.toList_append]
    exact word.append (WordRun.paddedHex width number).hyphen
  have first := (WordRun.paddedHex 8 (uuid.bits.toNat >>> 96)).bareWord
  exact group (group (group (group first _ _) _ _) _ _) _ _

theorem characters_hexBytes (bytes : List UInt8) :
    ∀ character ∈ (hexBytes bytes).toList, isWordCharacter character := by
  induction bytes with
  | nil => simp [hexBytes]
  | cons byte rest ih =>
      rw [hexBytes, String.toList_append]
      exact ((WordRun.paddedHex 2 byte.toNat).append ih).characters

/-! ## Constants -/

namespace Value

def quotedText? : Value → Option String
  | .text value => some value
  | .word value => some value.name
  | .date value => some value.text
  | .time value => some value.text
  | .timestamp value => some value.millisecondText
  | _ => none

def isAtomic : Value → Bool
  | .bool _ | .int _ | .float _ | .decimal _ | .text _ | .word _ | .uuid _
  | .bytes _ | .byteArray _ | .date _ | .time _ | .timestamp _ => true
  | _ => false

theorem exists_constant_iff {value : Value} :
    (∃ text, value.constant = .ok text) ↔
      value.isAtomic ∧ value.isWritable := by
  cases value with
  | int number => simp [constant_int_eq_ok, isAtomic, isWritable]
  | _ => simp [constant, isAtomic, isWritable]

theorem constant_of_isWritable_eq_false {value : Value}
    (atomic : value.isAtomic) (unwritable : value.isWritable = false) :
    value.constant = .error .unwritableNumber := by
  cases value with
  | int number =>
      rw [isWritable] at unwritable
      exact constant_int_eq_error.mpr ⟨unwritable, rfl⟩
  | _ => simp [isAtomic, isWritable] at atomic unwritable

theorem constant_eq_ok {value : Value} {text : String}
    (written : value.constant = .ok text) :
    (∃ content, value.quotedText? = some content ∧
        text = quotedConstant content) ∨
      value.quotedText? = none ∧ BareWord text.toList := by
  cases value
  case int number =>
      obtain ⟨_, rfl⟩ := constant_int_eq_ok.mp written
      exact .inr ⟨rfl, .int_repr number⟩
  -- injectivity, so that no constant is computed
  all_goals simp only [constant, Except.ok.injEq, reduceCtorEq] at written
  case text | word | date | time | timestamp =>
      exact .inl ⟨_, rfl, written.symm⟩
  all_goals
    refine .inr ⟨rfl, ?_⟩
    subst written
  case bool value =>
      cases value <;> exact (WordRun.of_all rfl).bareWord
  case float value => exact value.bareWord_constant
  case decimal value => exact value.bareWord_text
  case uuid value => exact value.bareWord_text
  case bytes value | byteArray value =>
      refine WordRun.bareWord ?_
      rw [String.toList_append]
      exact (show WordRun "0x".toList from .of_all rfl).append
        (characters_hexBytes value)

end Value

end StructuredCql
