import Mathlib.Data.List.TakeWhile
import Mathlib.Tactic.Ring
import StructuredCql.Reading.Scalar

/-!
# Numbers of so many digits

A run of digits stands for less than the power of ten with its length, so a
number that is read from few enough digits can be written again.
-/

namespace StructuredCql

open StructuredCql.Text

theorem Text.digitsValue_lt {digits : List Char}
    (all : ∀ digit ∈ digits, digit.isDigit) :
    digitsValue digits < 10 ^ digits.length := by
  suffices folded : ∀ value bound : Nat, value < bound →
      digits.foldl (fun value digit =>
        10 * value + (digit.toNat - '0'.toNat)) value <
        bound * 10 ^ digits.length by
    simpa [digitsValue] using folded 0 1 (by omega)
  induction digits with
  | nil => simp
  | cons digit rest ih =>
      rw [List.forall_mem_cons] at all
      intro value bound less
      have digit_le : digit.toNat - '0'.toNat ≤ 9 := by
        have := all.1
        simp only [Char.isDigit, Bool.and_eq_true, decide_eq_true_eq] at this
        have : digit.toNat ≤ 57 := this.2
        simp
        omega
      have next := ih all.2 (10 * value + (digit.toNat - '0'.toNat))
        (bound * 10) (by omega)
      rw [List.foldl_cons, List.length_cons, pow_succ']
      rwa [← mul_assoc]

namespace Whole

theorem tenthPower_eq (base : Nat) : tenthPower base = base ^ 10 := by
  rw [tenthPower]
  ring

theorem leastUnwritable_eq : leastUnwritable = 10 ^ longest := by
  have exponent : (4 * 10 + 3) * 10 * 10 = longest := rfl
  rw [leastUnwritable, tenthPower_eq, tenthPower_eq, tenthPower_eq, ← exponent,
    pow_mul, pow_mul, pow_add, pow_mul]
  rfl

theorem isWritable_iff {value : Int} :
    isWritable value ↔ value.natAbs < 10 ^ longest := by
  rw [isWritable, decide_eq_true_iff, leastUnwritable_eq]

theorem isWritable_of_natAbs_lt {value : Int} {digits : Nat}
    (less : value.natAbs < 10 ^ digits) (few : digits ≤ longest) :
    isWritable value := by
  rw [isWritable_iff]
  exact Nat.lt_of_lt_of_le less (Nat.pow_le_pow_right (by omega) few)

theorem isWritable_of_digits {digits : List Char} {value : Int}
    (all : ∀ digit ∈ digits, digit.isDigit) (few : digits.length ≤ longest)
    (same : value.natAbs = digitsValue digits) : isWritable value :=
  isWritable_of_natAbs_lt (same ▸ digitsValue_lt all) few

theorem isWritable_of_bounds {value : Int}
    (bounds : -0x8000000000000000 ≤ value ∧ value ≤ 0x8000000000000000) :
    isWritable value := by
  have few : 19 ≤ longest := by decide
  exact isWritable_of_natAbs_lt (by norm_num; omega) few

theorem isWritable_of_plain? {text : List Char} {value : Int}
    (few : beginsOversized text = false) (read : plain? text = some value) :
    isWritable value := by
  unfold plain? at read
  unfold beginsOversized at few
  generalize splitMinus text = parts at read few
  obtain ⟨negative, digits⟩ := parts
  simp only at read few
  split at read
  · cases read
  · next notDigits =>
    have all : digits.all Char.isDigit = true := by simp_all
    have run : digits.takeWhile Char.isDigit = digits :=
      List.takeWhile_eq_self_iff.mpr (List.all_eq_true.mp all)
    rw [run, decide_eq_false_iff_not] at few
    split at read
    · cases read
    · next noZero =>
      have short : digits.length ≤ longest := by
        have : 1 ≤ longest := by decide
        by_cases zero : digits.head? = some '0'
        · have := not_and.mp noZero zero
          omega
        · have := not_and.mp few zero
          omega
      apply isWritable_of_digits (List.all_eq_true.mp all) short
      split at read <;> cases read <;> simp

theorem isWritable_of_loose? {text : List Char} {value : Int}
    (read : loose? text = some value) : isWritable value := by
  unfold loose? at read
  generalize Numeral.splitSign _ = parts at read
  obtain ⟨negative, body⟩ := parts
  obtain ⟨significant, _, read⟩ := Option.bind_eq_some_iff.mp read
  obtain ⟨digits, _, read⟩ := Option.bind_eq_some_iff.mp read
  simp only at read
  generalize (if negative = true then '-' :: digits else digits) = plain
    at read
  split at read
  · cases read
  · next few => exact isWritable_of_plain? (by simpa using few) read

end Whole

/-! ## Numbers out of values -/

namespace Value

theorem isWritable_of_readIntegerText {text : List Char} {value : Int}
    (read : readIntegerText text = .ok value) : Whole.isWritable value := by
  unfold readIntegerText at read
  split at read
  · cases read
  · next few =>
    split at read
    · next found =>
      cases read
      rcases Option.or_eq_some_iff.mp found with plain | ⟨_, loose⟩
      · exact Whole.isWritable_of_plain? (by simpa using few) plain
      · exact Whole.isWritable_of_loose? loose
    · cases read

theorem isWritable_of_readRatio {ratio : Option (Int × Nat)} {value : Int}
    (read : readRatio true ratio = .ok value) : Whole.isWritable value := by
  unfold readRatio at read
  split at read
  · cases read
  · split at read
    · cases read
    · simp only at read
      split at read
      · cases read
      · next within =>
        cases read
        apply Whole.isWritable_of_bounds
        simp only [true_and, not_or] at within
        omega

end Value

end StructuredCql
