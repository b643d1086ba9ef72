import Mathlib.Data.List.TakeWhile
import StructuredCql.Number.Decimal

/-!
# Numerals read back

The scientific text of a numeral shows its sign, all digits of its coefficient
and, through the place of the point and the exponent behind it, its power of
ten.  So the reader of numerals recovers each of them exactly, and a whole
number is read as the numeral without a power.
-/

namespace StructuredCql

open StructuredCql.Text

/-! ## Digits -/

structure AreDigits (text : List Char) : Prop where
  nonempty : text ≠ []
  all : ∀ character ∈ text, character.isDigit

theorem AreDigits.toDigits (number : Nat) :
    AreDigits (Nat.toDigits 10 number) :=
  ⟨Nat.toDigits_ne_nil, fun _ member =>
    Nat.isDigit_of_mem_toDigits (by decide) (by decide) member⟩

@[simp] theorem digitsValue_toDigits (number : Nat) :
    digitsValue (Nat.toDigits 10 number) = number :=
  Nat.ofDigitChars_ten_toDigits

theorem digitsValue_zeros_append (count : Nat) (digits : List Char) :
    digitsValue (List.replicate count '0' ++ digits) = digitsValue digits := by
  have zeros := @Nat.ofDigitChars_append 10 (List.replicate count '0') digits 0
  rwa [Nat.ofDigitChars_replicate_zero, Nat.mul_zero] at zeros

namespace Numeral

/-! ## The parts of a numeral -/

def withPoint : List Char → List Char
  | [] => []
  | fraction => '.' :: fraction

theorem splitSign_signText_append (negative : Bool) {text : List Char}
    (unsigned : ∀ first ∈ text.head?, first ≠ '-' ∧ first ≠ '+') :
    splitSign ((Decimal.signText negative).toList ++ text) =
      (negative, text) := by
  cases negative with
  | true => rfl
  | false =>
      cases text with
      | nil => rfl
      | cons first rest =>
          obtain ⟨notMinus, notPlus⟩ := unsigned first rfl
          change splitSign (first :: rest) = (false, first :: rest)
          unfold splitSign
          split
          · next same =>
            cases same
            exact absurd rfl notMinus
          · next same =>
            cases same
            exact absurd rfl notPlus
          · rfl

structure EndsDigits (tail : List Char) : Prop where
  noDigit : ∀ first ∈ tail.head?, first.isDigit = false
  noPoint : tail.head? ≠ some '.'

private theorem spanDigits_append {digits tail : List Char}
    (all : ∀ digit ∈ digits, digit.isDigit)
    (noDigit : ∀ first ∈ tail.head?, first.isDigit = false) :
    (digits ++ tail).takeWhile Char.isDigit = digits ∧
      (digits ++ tail).dropWhile Char.isDigit = tail := by
  rw [List.takeWhile_append_of_pos all, List.dropWhile_append_of_pos all]
  cases tail with
  | nil => simp
  | cons first rest => simp [noDigit first rfl]

theorem ofText?_append {whole fraction tail : List Char} {power : Int}
    (negative : Bool) (isWhole : AreDigits whole)
    (isFraction : ∀ digit ∈ fraction, digit.isDigit)
    (ends : EndsDigits tail) (read : readPower? tail = some power) :
    ofText? ((Decimal.signText negative).toList ++
        (whole ++ (withPoint fraction ++ tail))) =
      some (ofParts negative whole fraction power) := by
  have unsigned : ∀ first ∈ (whole ++ (withPoint fraction ++ tail)).head?,
      first ≠ '-' ∧ first ≠ '+' := by
    obtain ⟨first, rest, rfl⟩ := List.exists_cons_of_ne_nil isWhole.nonempty
    have isDigit := isWhole.all first List.mem_cons_self
    rintro _ ⟨⟩
    constructor <;> rintro rfl <;> cases isDigit
  have noDigit : ∀ first ∈ (withPoint fraction ++ tail).head?,
      first.isDigit = false := by
    cases fraction with
    | nil => exact ends.noDigit
    | cons => simp [withPoint]
  obtain ⟨taken, dropped⟩ := spanDigits_append isWhole.all noDigit
  unfold ofText?
  rw [splitSign_signText_append negative unsigned]
  simp only [taken, dropped, List.isEmpty_iff, isWhole.nonempty, false_and,
    if_false]
  cases fraction with
  | nil =>
      rw [withPoint, List.nil_append]
      split
      · exact absurd rfl ends.noPoint
      · rw [read]
        rfl
  | cons digit fraction =>
      obtain ⟨taken, dropped⟩ := spanDigits_append isFraction ends.noDigit
      rw [withPoint, List.cons_append]
      · simp only [taken, dropped, read]
        rfl
      · simp

/-! ## Numerals with a point -/

/-- Wherever the point stands, up to behind the last digit, it tells the power
of ten of that digit. -/
theorem exists_parts_of_pointed {digits : List Char}
    (areDigits : AreDigits digits) {place : Int}
    (within : place ≤ digits.length) :
    ∃ whole fraction, AreDigits whole ∧
      (∀ digit ∈ fraction, digit.isDigit) ∧
      (Decimal.pointed digits place).toList = whole ++ withPoint fraction ∧
      digitsValue (whole ++ fraction) = digitsValue digits ∧
      (fraction.length : Int) = digits.length - place := by
  have positive := List.length_pos_iff.mpr areDigits.nonempty
  unfold Decimal.pointed
  split
  · next small =>
    refine ⟨['0'], List.replicate (-place).toNat '0' ++ digits,
      ⟨by simp, by simp⟩, ?_, ?_, ?_, ?_⟩
    · intro digit member
      rcases List.mem_append.mp member with isZero | isDigit
      · rw [(List.mem_replicate.mp isZero).2]
        rfl
      · exact areDigits.all digit isDigit
    · rw [String.toList_ofList, withPoint]
      · rfl
      · simp [areDigits.nonempty]
    · exact digitsValue_zeros_append ((-place).toNat + 1) digits
    · rw [List.length_append, List.length_replicate]
      omega
  · split
    · next large =>
      have unpadded : place.toNat - digits.length = 0 := by omega
      refine ⟨digits, [], areDigits, by simp, ?_, by simp, ?_⟩
      · simp [unpadded, withPoint]
      · rw [List.length_nil]
        omega
    · next inside =>
      refine ⟨digits.take place.toNat, digits.drop place.toNat,
        ⟨?_, ?_⟩, ?_, ?_, ?_, ?_⟩
      · intro empty
        have := congrArg List.length empty
        rw [List.length_take, List.length_nil] at this
        omega
      · exact fun digit member =>
          areDigits.all digit (List.mem_of_mem_take member)
      · exact fun digit member =>
          areDigits.all digit (List.mem_of_mem_drop member)
      · rw [String.toList_ofList, withPoint]
        intro empty
        have := List.drop_eq_nil_iff.mp empty
        omega
      · rw [List.take_append_drop]
      · rw [List.length_drop]
        omega

theorem ofText?_pointed_append {digits tail : List Char} {place power : Int}
    (negative : Bool) (areDigits : AreDigits digits)
    (within : place ≤ digits.length) (ends : EndsDigits tail)
    (read : readPower? tail = some power) :
    ofText? ((Decimal.signText negative).toList ++
        ((Decimal.pointed digits place).toList ++ tail)) =
      some ⟨negative, digitsValue digits, power + place - digits.length⟩ := by
  obtain ⟨whole, fraction, isWhole, isFraction, spelled, same, count⟩ :=
    exists_parts_of_pointed areDigits within
  rw [spelled, List.append_assoc,
    ofText?_append negative isWhole isFraction ends read, ofParts, same, count]
  congr 2
  omega

/-! ## Whole numbers -/

theorem toList_repr (number : Int) :
    number.repr.toList =
      (Decimal.signText (decide (number < 0))).toList ++
        Nat.toDigits 10 number.natAbs := by
  rw [Int.repr_eq_if]
  split
  · next positive =>
    have same : number.toNat = number.natAbs := by omega
    rw [decide_eq_false (by omega), same, Nat.toList_repr]
    rfl
  · next negative =>
    have same : (-number).toNat = number.natAbs := by omega
    rw [decide_eq_true (by omega), same, String.toList_append,
      Nat.toList_repr]
    rfl

theorem readPower?_signedText (power : Int) :
    readPower? ('E' :: (Decimal.signedText power).toList) = some power := by
  have areDigits := AreDigits.toDigits power.natAbs
  have allDigits := List.all_eq_true.mpr areDigits.all
  unfold Decimal.signedText
  split
  · next negative =>
    rw [Int.toString_eq_repr, toList_repr, decide_eq_true negative]
    have value : -((power.natAbs : Nat) : Int) = power := by omega
    simpa [readPower?, splitSign, Decimal.signText, areDigits.nonempty,
      allDigits] using value
  · next positive =>
    rw [String.toList_append, Int.toString_eq_repr, toList_repr,
      decide_eq_false positive]
    have value : ((power.natAbs : Nat) : Int) = power := by omega
    simpa [readPower?, splitSign, Decimal.signText, areDigits.nonempty,
      allDigits] using value

/-! ## Written numerals -/

theorem ofText?_numeralText (numeral : Numeral) :
    ofText? (Decimal.numeralText numeral).toList = some numeral := by
  obtain ⟨negative, coefficient, exponent⟩ := numeral
  have areDigits := AreDigits.toDigits coefficient
  have positive := Nat.length_toDigits_pos (b := 10) (n := coefficient)
  have positional {place : Int}
      (same : place = exponent + (Nat.toDigits 10 coefficient).length)
      (within : place ≤ (Nat.toDigits 10 coefficient).length) :
      ofText? (Decimal.signText negative ++
          Decimal.pointed (Nat.toDigits 10 coefficient) place).toList =
        some ⟨negative, coefficient, exponent⟩ := by
    have read := @ofText?_pointed_append _ [] place 0 negative areDigits within
      ⟨by simp, by simp⟩ rfl
    rw [String.toList_append]
    rw [List.append_nil, digitsValue_toDigits] at read
    rw [read]
    congr 2
    omega
  unfold Decimal.numeralText
  dsimp only
  split
  · exact positional rfl (by omega)
  · split
    · next single => exact positional single.symm (by omega)
    · have read := ofText?_pointed_append negative areDigits
        (show (1 : Int) ≤ _ by omega) ⟨by simp, by simp⟩
        (readPower?_signedText
          (exponent + (Nat.toDigits 10 coefficient).length - 1))
      rw [String.toList_append, String.toList_append, String.toList_append]
      rw [digitsValue_toDigits] at read
      refine Eq.trans ?_ (read.trans ?_)
      · simp
      · congr 2
        omega

theorem ofText?_repr (number : Int) :
    ofText? number.repr.toList =
      some ⟨decide (number < 0), number.natAbs, 0⟩ := by
  have read := @ofText?_append _ [] [] 0 (decide (number < 0))
    (AreDigits.toDigits number.natAbs) (by simp) ⟨by simp, by simp⟩ rfl
  rw [withPoint, List.append_nil, List.append_nil] at read
  rw [toList_repr, read, ofParts, List.append_nil, digitsValue_toDigits]
  rfl

/-! ## Signs -/

private theorem count_hyphen_of_digits {digits : List Char}
    (all : ∀ digit ∈ digits, digit.isDigit) : digits.count '-' = 0 := by
  rw [List.count_eq_zero]
  intro member
  cases all '-' member

private theorem count_hyphen_le_splitSign (text : List Char) :
    text.count '-' ≤ (splitSign text).2.count '-' + 1 := by
  unfold splitSign
  split
  · simp
  · simp
  · exact Nat.le_succ _

private theorem count_hyphen_of_readPower? {text : List Char} {power : Int}
    (read : readPower? text = some power) : text.count '-' ≤ 1 := by
  cases text with
  | nil => simp
  | cons mark rest =>
      simp only [readPower?] at read
      split at read
      · next isMark =>
        split at read
        · cases read
        · next digits =>
          have all : ∀ digit ∈ (splitSign rest).2, digit.isDigit := by
            simpa using (not_or.mp digits).2
          have signs := count_hyphen_le_splitSign rest
          rw [count_hyphen_of_digits all] at signs
          rw [List.count_cons_of_ne]
          · exact signs
          · rcases isMark with rfl | rfl <;> decide
      · cases read

theorem count_hyphen_le_two {text : List Char} {numeral : Numeral}
    (read : ofText? text = some numeral) : text.count '-' ≤ 2 := by
  have skipDigits (text : List Char) : text.count '-' =
      (text.dropWhile Char.isDigit).count '-' := by
    have parts := congrArg (List.count '-')
      (@List.takeWhile_append_dropWhile _ Char.isDigit text)
    rw [List.count_append, count_hyphen_of_digits
      fun _ member => List.mem_takeWhile_imp member, Nat.zero_add] at parts
    exact parts.symm
  have signs := count_hyphen_le_splitSign text
  rw [skipDigits (splitSign text).2] at signs
  unfold ofText? at read
  simp only at read
  generalize (splitSign text).2.dropWhile Char.isDigit = afterWhole
    at signs read
  -- The point and the fraction hold no sign, so one can only stand behind.
  split at read
  · next behindPoint =>
    split at read
    · cases read
    · obtain ⟨power, read, _⟩ := Option.map_eq_some_iff.mp read
      rw [List.count_cons_of_ne (by decide), skipDigits behindPoint] at signs
      exact signs.trans (Nat.succ_le_succ (count_hyphen_of_readPower? read))
  · split at read
    · cases read
    · obtain ⟨power, read, _⟩ := Option.map_eq_some_iff.mp read
      exact signs.trans (Nat.succ_le_succ (count_hyphen_of_readPower? read))

end Numeral

end StructuredCql
