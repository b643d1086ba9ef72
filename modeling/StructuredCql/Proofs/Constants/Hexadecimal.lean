import Mathlib.Data.List.Basic
import Mathlib.Tactic.Ring
import StructuredCql.Proofs.BareWords
import StructuredCql.Value

/-!
# Base sixteen read back

A numeral of base sixteen with a least width has just that width if its number
is small enough, and the digits of neighbouring numerals make up one number.
So bytes are read back two digits at a time, and an identifier from its five
groups.
-/

namespace StructuredCql

open StructuredCql.Text

def hexValue (digits : List Nat) : Nat :=
  digits.foldl (fun value digit => 16 * value + digit) 0

theorem hexValue_append (first second : List Nat) :
    hexValue (first ++ second) =
      hexValue first * 16 ^ second.length + hexValue second := by
  suffices shifted : ∀ value : Nat,
      second.foldl (fun value digit => 16 * value + digit) value =
        value * 16 ^ second.length + hexValue second by
    rw [hexValue, List.foldl_append]
    exact shifted _
  induction second with
  | nil => simp [hexValue]
  | cons digit second ih =>
      intro value
      have whole : hexValue (digit :: second) =
          (16 * 0 + digit) * 16 ^ second.length + hexValue second := ih _
      rw [List.foldl_cons, ih, whole, List.length_cons]
      ring

/-- A text of so many digits of base sixteen, with the number it stands for. -/
def SpellsHex (text : List Char) (width number : Nat) : Prop :=
  ∃ digits, text.mapM hexDigitValue? = some digits ∧
    digits.length = width ∧ hexValue digits = number

namespace SpellsHex

theorem append {first second : List Char} {width otherWidth number other : Nat}
    (left : SpellsHex first width number)
    (right : SpellsHex second otherWidth other) :
    SpellsHex (first ++ second) (width + otherWidth)
      (number * 16 ^ otherWidth + other) := by
  obtain ⟨digits, read, rfl, rfl⟩ := left
  obtain ⟨others, otherRead, rfl, rfl⟩ := right
  refine ⟨digits ++ others, ?_, List.length_append, hexValue_append _ _⟩
  rw [List.mapM_append, read, otherRead]
  rfl

theorem digit {number : Nat} (small : number < 16) :
    SpellsHex [number.digitChar] 1 number := by
  have digits : ∀ digit < 16, hexDigitValue? digit.digitChar = some digit := by
    decide
  refine ⟨[number], ?_, rfl, ?_⟩
  · rw [List.mapM_cons, digits number small]
    rfl
  · simp [hexValue]

theorem zeros (count : Nat) : SpellsHex (List.replicate count '0') count 0 := by
  induction count with
  | zero => exact ⟨[], rfl, rfl, rfl⟩
  | succ count ih =>
      have zero : SpellsHex ['0'] 1 0 := @digit 0 (by decide)
      have more := ih.append zero
      rwa [Nat.zero_mul, Nat.zero_add, ← List.replicate_succ'] at more

theorem toDigits (number : Nat) :
    SpellsHex (Nat.toDigits 16 number) (Nat.toDigits 16 number).length
      number := by
  induction number using Nat.base_induction 16 (by decide) with
  | single digit small =>
      rw [Nat.toDigits_of_lt_base small]
      exact .digit small
  | digit number digit small positive ih =>
      rw [← Nat.toDigits_append_toDigits (by decide) positive small,
        Nat.toDigits_of_lt_base small, List.length_append,
        Nat.mul_comm]
      exact ih.append (.digit small)

theorem isSome_of_mem {text : List Char} {width number : Nat}
    (spells : SpellsHex text width number) :
    ∀ character ∈ text, (hexDigitValue? character).isSome := by
  obtain ⟨digits, read, -⟩ := spells
  induction text generalizing digits with
  | nil => simp
  | cons first text ih =>
      rw [List.mapM_cons] at read
      obtain ⟨digit, isDigit, read⟩ := Option.bind_eq_some_iff.mp read
      obtain ⟨others, further, _⟩ := Option.bind_eq_some_iff.mp read
      intro character member
      rcases List.mem_cons.mp member with rfl | member
      · simp [isDigit]
      · exact ih others further character member

theorem length_eq {text : List Char} {width number : Nat}
    (spells : SpellsHex text width number) : text.length = width := by
  obtain ⟨digits, read, rfl, -⟩ := spells
  induction text generalizing digits with
  | nil =>
      cases read
      rfl
  | cons first text ih =>
      rw [List.mapM_cons] at read
      obtain ⟨digit, -, read⟩ := Option.bind_eq_some_iff.mp read
      obtain ⟨others, further, same⟩ := Option.bind_eq_some_iff.mp read
      cases same
      rw [List.length_cons, List.length_cons, ih others further]

theorem paddedHex {width number : Nat} (positive : 0 < width)
    (fits : number < 16 ^ width) :
    SpellsHex (paddedHex width number).toList width number := by
  have short := (Nat.length_toDigits_le_iff (by decide) positive).mpr fits
  have padded := (zeros (width - (Nat.toDigits 16 number).length)).append
    (.toDigits number)
  rw [Nat.zero_mul, Nat.zero_add, Nat.sub_add_cancel short] at padded
  rwa [Text.paddedHex, String.toList_ofList]

end SpellsHex

/-! ## Bytes -/

def bytesOfDigits? : List Nat → Option (List UInt8)
  | [] => some []
  | [_] => none
  | high :: low :: rest =>
      (bytesOfDigits? rest).map (UInt8.ofNat (16 * high + low) :: ·)

theorem exists_digits_of_hexBytes (bytes : List UInt8) :
    ∃ digits, (hexBytes bytes).toList.mapM hexDigitValue? = some digits ∧
      bytesOfDigits? digits = some bytes := by
  induction bytes with
  | nil => exact ⟨[], rfl, rfl⟩
  | cons byte rest ih =>
      obtain ⟨digits, read, same⟩ := ih
      obtain ⟨pair, readPair, width, value⟩ :=
        SpellsHex.paddedHex (show 0 < 2 by decide) byte.toNat_lt
      obtain ⟨high, low, rfl⟩ := List.length_eq_two.mp width
      refine ⟨high :: low :: digits, ?_, ?_⟩
      · rw [hexBytes, String.toList_append, List.mapM_append, readPair, read]
        rfl
      · have whole : 16 * high + low = byte.toNat := by
          simpa [hexValue] using value
        rw [bytesOfDigits?, same, whole, UInt8.ofNat_toNat]
        rfl

/-! ## Identifiers -/

namespace Uuid

private theorem eq_of_groups (number : Nat) :
    (((number >>> 96 * 16 ^ 4 + number >>> 80 % 0x10000) * 16 ^ 4 +
      number >>> 64 % 0x10000) * 16 ^ 4 + number >>> 48 % 0x10000) * 16 ^ 12 +
      number % 0x1000000000000 = number := by
  simp only [Nat.shiftRight_eq_div_pow]
  omega

theorem spellsHex_groups (uuid : Uuid) :
    SpellsHex (paddedHex 8 (uuid.bits.toNat >>> 96)).toList 8
        (uuid.bits.toNat >>> 96) ∧
      (∀ number, SpellsHex (paddedHex 4 (number % 0x10000)).toList 4
        (number % 0x10000)) ∧
      SpellsHex (paddedHex 12 (uuid.bits.toNat % 0x1000000000000)).toList 12
        (uuid.bits.toNat % 0x1000000000000) := by
  have small := uuid.bits.isLt
  refine ⟨.paddedHex (by decide) ?_,
    fun _ => .paddedHex (by decide) (Nat.mod_lt _ (by decide)),
    .paddedHex (by decide) (Nat.mod_lt _ (by decide))⟩
  rw [Nat.shiftRight_eq_div_pow]
  omega

theorem ofText?_text (uuid : Uuid) : ofText? uuid.text.toList = some uuid := by
  have kept {width number : Nat} {text : List Char}
      (spells : SpellsHex text width number) :
      text.filter (fun character =>
        character != '-' && character != '\x7b' && character != '\x7d') =
        text := by
    refine List.filter_eq_self.mpr fun character member => ?_
    have isSome := spells.isSome_of_mem character member
    simp only [Bool.and_eq_true, bne_iff_ne]
    refine ⟨⟨?_, ?_⟩, ?_⟩ <;> rintro rfl <;> cases isSome
  obtain ⟨first, group, last⟩ := uuid.spellsHex_groups
  obtain ⟨digits, read, width, value⟩ :=
    (((first.append (group (uuid.bits.toNat >>> 80))).append
      (group (uuid.bits.toNat >>> 64))).append
      (group (uuid.bits.toNat >>> 48))).append last
  rw [eq_of_groups] at value
  have hyphen : "-".toList.filter (fun character =>
      character != '-' && character != '\x7b' && character != '\x7d') = [] :=
    rfl
  unfold ofText? text
  simp only [String.toList_append, List.filter_append, kept first,
    kept (group _), kept last, hyphen, List.append_nil, read]
  have bits : digits.foldl (fun value digit => 16 * value + digit) 0 =
      uuid.bits.toNat := value
  simp [width, bits]

theorem count_hyphen_text (uuid : Uuid) : uuid.text.toList.count '-' = 4 := by
  have group (width number : Nat) :
      (paddedHex width number).toList.count '-' = 0 := by
    rw [List.count_eq_zero]
    intro member
    cases (WordRun.paddedHex width number).characters '-' member
  have hyphen : "-".toList.count '-' = 1 := rfl
  simp only [text, String.toList_append, List.count_append, group, hyphen]

end Uuid

end StructuredCql
