import StructuredCql.ErrorReport
import StructuredCql.Proofs.Constants
import StructuredCql.Proofs.Constants.Hexadecimal
import StructuredCql.Proofs.Constants.Numerals

/-!
# The grammar of constants

A constant is a text in quotes, a truth value, a number, one of the two words
for what is no number, an identifier, or bytes.  The main statement is that
every value that is written at all is written as a constant, apart from
diagnostic decimals: those that signal, or that carry a payload.
-/

namespace StructuredCql

open StructuredCql.Text

/-! ## The grammar -/

/-- Text between quotes, where an apostrophe has to be doubled. -/
inductive QuotedBody : List Char → Prop
  | nil : QuotedBody []
  | apostrophe {rest : List Char} :
      QuotedBody rest → QuotedBody ('\'' :: '\'' :: rest)
  | plain {character : Char} {rest : List Char} :
      character ≠ '\'' → QuotedBody rest → QuotedBody (character :: rest)

/-- Nothing, or the mark of an exponent with a sign, if any, and digits. -/
inductive IsExponent : List Char → Prop
  | none : IsExponent []
  | some {mark : Char} {sign digits : List Char} :
      mark ∈ ['e', 'E'] → sign ∈ [[], ['+'], ['-']] → AreDigits digits →
      IsExponent (mark :: (sign ++ digits))

inductive IsNumber : List Char → Prop
  | intro (negative : Bool) {whole fraction exponent : List Char} :
      AreDigits whole → (∀ digit ∈ fraction, digit.isDigit) →
      IsExponent exponent →
      IsNumber ((Decimal.signText negative).toList ++
        (whole ++ (Numeral.withPoint fraction ++ exponent)))

def AreHexDigits (text : List Char) : Prop :=
  ∀ character ∈ text, (hexDigitValue? character).isSome

structure IsHexGroup (width : Nat) (text : List Char) : Prop where
  length_eq : text.length = width
  all : AreHexDigits text

inductive IsConstant : List Char → Prop
  | quoted {body : List Char} :
      QuotedBody body → IsConstant ('\'' :: (body ++ ['\'']))
  | truth (value : Bool) :
      IsConstant (if value then "TRUE" else "FALSE").toList
  | number {text : List Char} : IsNumber text → IsConstant text
  | notANumber (negative : Bool) :
      IsConstant ((Decimal.signText negative).toList ++ "NaN".toList)
  | infinity (negative : Bool) :
      IsConstant ((Decimal.signText negative).toList ++ "Infinity".toList)
  | uuid {first second third fourth fifth : List Char} :
      IsHexGroup 8 first → IsHexGroup 4 second → IsHexGroup 4 third →
      IsHexGroup 4 fourth → IsHexGroup 12 fifth →
      IsConstant (first ++ '-' :: (second ++ '-' :: (third ++
        '-' :: (fourth ++ '-' :: fifth))))
  | bytes {digits : List Char} :
      AreHexDigits digits → Even digits.length →
      IsConstant ('0' :: 'x' :: digits)

/-! ## Quoted texts -/

theorem QuotedBody.doubleApostrophes (text : List Char) :
    QuotedBody (doubleApostrophes text) := by
  induction text using doubleApostrophes.induct with
  | case1 => exact .nil
  | case2 rest ih => exact .apostrophe ih
  | case3 character rest plain ih =>
      rw [doubleApostrophes.eq_3 _ _ plain]
      exact .plain plain ih

theorem IsConstant.quotedConstant (text : String) :
    IsConstant (quotedConstant text).toList := by
  have spelled : (StructuredCql.quotedConstant text).toList =
      '\'' :: (doubleApostrophes text.toList ++ ['\'']) := by
    simp [StructuredCql.quotedConstant]
  rw [spelled]
  exact .quoted (.doubleApostrophes _)

/-! ## Numbers -/

theorem AreDigits.amongZeros {digits : List Char}
    (areDigits : AreDigits digits) (before after : Nat) :
    AreDigits (List.replicate before '0' ++ digits ++
      List.replicate after '0') := by
  refine ⟨by simp [areDigits.nonempty], fun digit member => ?_⟩
  simp only [List.mem_append, List.mem_replicate] at member
  rcases member with (⟨-, rfl⟩ | isDigit) | ⟨-, rfl⟩
  · rfl
  · exact areDigits.all digit isDigit
  · rfl

theorem AreDigits.paddedDigits (width number : Nat) :
    AreDigits (paddedDigits width number).toList := by
  rw [Text.paddedDigits, String.toList_ofList]
  simpa using (AreDigits.toDigits number).amongZeros
    (width - (Nat.toDigits 10 number).length) 0

theorem AreDigits.withoutFinalZeros {digits : List Char}
    (areDigits : AreDigits digits) :
    AreDigits (Binary64.withoutFinalZeros digits) := by
  unfold Binary64.withoutFinalZeros
  split
  · exact ⟨by simp, by simp⟩
  · next nonempty =>
    refine ⟨nonempty, fun digit member => areDigits.all digit ?_⟩
    have := (List.dropWhile_suffix _).subset (List.mem_reverse.mp member)
    exact List.mem_reverse.mp this

theorem IsExponent.signedText (power : Int) :
    IsExponent ('E' :: (Decimal.signedText power).toList) := by
  have areDigits := AreDigits.toDigits power.natAbs
  unfold Decimal.signedText
  split
  · next negative =>
    rw [Int.toString_eq_repr, Numeral.toList_repr, decide_eq_true negative]
    exact .some (by simp) (by simp [Decimal.signText]) areDigits
  · next positive =>
    rw [String.toList_append, Int.toString_eq_repr, Numeral.toList_repr,
      decide_eq_false positive]
    exact .some (by simp) (by simp) areDigits

namespace IsNumber

theorem pointed {digits exponent : List Char} (negative : Bool)
    (areDigits : AreDigits digits) {place : Int}
    (within : place ≤ digits.length) (isExponent : IsExponent exponent) :
    IsNumber ((Decimal.signText negative).toList ++
      ((Decimal.pointed digits place).toList ++ exponent)) := by
  obtain ⟨whole, fraction, isWhole, isFraction, spelled, -⟩ :=
    Numeral.exists_parts_of_pointed areDigits within
  rw [spelled, List.append_assoc]
  exact .intro negative isWhole isFraction isExponent

theorem repr (number : Int) : IsNumber number.repr.toList := by
  rw [Numeral.toList_repr]
  simpa [Numeral.withPoint] using IsNumber.intro (decide (number < 0))
    (AreDigits.toDigits number.natAbs) (by simp : ∀ digit ∈ [], _) .none

theorem numeralText (numeral : Numeral) :
    IsNumber (Decimal.numeralText numeral).toList := by
  have areDigits := AreDigits.toDigits numeral.coefficient
  have positive : 0 < (Nat.toDigits 10 numeral.coefficient).length :=
    Nat.length_toDigits_pos
  have positional {place : Int}
      (within : place ≤ (Nat.toDigits 10 numeral.coefficient).length) :
      IsNumber (Decimal.signText numeral.negative ++
        Decimal.pointed (Nat.toDigits 10 numeral.coefficient) place).toList :=
    by simpa using pointed numeral.negative areDigits within .none
  unfold Decimal.numeralText
  dsimp only
  split
  · exact positional (by omega)
  · split
    · exact positional (by omega)
    · have scientific := pointed numeral.negative areDigits
        (show (1 : Int) ≤ _ by omega) (.signedText (numeral.exponent +
          (Nat.toDigits 10 numeral.coefficient).length - 1))
      simpa using scientific

theorem lay (negative : Bool) (layout : Binary64.Layout) {digits : List Char}
    (areDigits : AreDigits digits) (place : Int) :
    IsNumber (Decimal.signText negative ++ layout.lay digits place).toList := by
  have positive := List.length_pos_iff.mpr areDigits.nonempty
  unfold Binary64.Layout.lay
  dsimp only
  split
  · split
    · next large =>
      have whole : (Decimal.pointed digits place).toList = digits ++
          List.replicate (place.toNat - digits.length) '0' := by
        rw [Decimal.pointed, if_neg (by omega), if_pos large,
          String.toList_ofList]
      have fraction : ∀ digit ∈ ['0'], digit.isDigit := by simp
      simpa [whole, Numeral.withPoint] using IsNumber.intro negative
        (areDigits.amongZeros 0 (place.toNat - digits.length)) fraction .none
    · simpa using pointed negative areDigits (show place ≤ _ by omega) .none
  · have exponent : IsExponent ('e' ::
        ((if place - 1 < 0 then "-" else "+").toList ++
          (paddedDigits layout.exponentWidth (place - 1).natAbs).toList)) :=
      .some (by simp) (by split <;> simp) (.paddedDigits _ _)
    simpa using pointed negative areDigits (show (1 : Int) ≤ _ by omega)
      exponent

theorem magnitudeText (negative : Bool) (layout : Binary64.Layout)
    (index : Nat) :
    IsNumber (Decimal.signText negative ++
      Binary64.magnitudeText layout index).toList := by
  unfold Binary64.magnitudeText
  split
  · have zero : AreDigits ['0'] := ⟨by simp, by simp⟩
    simpa [Numeral.withPoint] using
      IsNumber.intro negative zero zero.all .none
  · exact lay negative layout (AreDigits.toDigits _).withoutFinalZeros _

end IsNumber

/-! ## Digits of base sixteen -/

theorem SpellsHex.isHexGroup {text : List Char} {width number : Nat}
    (spells : SpellsHex text width number) : IsHexGroup width text :=
  ⟨spells.length_eq, spells.isSome_of_mem⟩

theorem IsConstant.uuidText (uuid : Uuid) : IsConstant uuid.text.toList := by
  obtain ⟨first, group, last⟩ := uuid.spellsHex_groups
  simpa [Uuid.text] using IsConstant.uuid first.isHexGroup
    (group _).isHexGroup (group _).isHexGroup (group _).isHexGroup
    last.isHexGroup

theorem IsConstant.hexBytes (bytes : List UInt8) :
    IsConstant ("0x" ++ hexBytes bytes).toList := by
  have pairs : AreHexDigits (Text.hexBytes bytes).toList ∧
      Even (Text.hexBytes bytes).toList.length := by
    induction bytes with
    | nil => exact ⟨by simp [Text.hexBytes, AreHexDigits], .zero⟩
    | cons byte rest ih =>
        have pair := (SpellsHex.paddedHex (show 0 < 2 by decide)
          byte.toNat_lt).isHexGroup
        rw [Text.hexBytes, String.toList_append]
        refine ⟨List.forall_mem_append.mpr ⟨pair.all, ih.1⟩, ?_⟩
        rw [List.length_append, pair.length_eq]
        exact even_two.add ih.2
  rw [String.toList_append]
  exact .bytes pairs.1 pairs.2

/-! ## Words for what is no number -/

private theorem begins_apart (negative : Bool) {first : Char}
    {rest : List Char} (apart : first ∉ ['-', '+', 's', 'N']) :
    ∀ letter ∈ (Numeral.splitSign
        ((Decimal.signText negative).toList ++ first :: rest)).2.head?,
      letter ≠ 's' ∧ letter ≠ 'N' := by
  simp only [List.mem_cons, List.not_mem_nil, or_false, not_or] at apart
  obtain ⟨notMinus, notPlus, letters⟩ := apart
  rw [Numeral.splitSign_signText_append negative]
  · rintro _ ⟨⟩
    exact letters
  · rintro _ ⟨⟩
    exact ⟨notMinus, notPlus⟩

namespace IsConstant

private theorem eq_notANumber_or {text : List Char}
    (isConstant : IsConstant text) :
    (Numeral.splitSign text).2 = "NaN".toList ∨
      ∀ letter ∈ (Numeral.splitSign text).2.head?,
        letter ≠ 's' ∧ letter ≠ 'N' := by
  cases isConstant with
  | quoted | bytes => exact .inr (begins_apart false (by decide))
  | truth value =>
      cases value <;> exact .inr (begins_apart false (by decide))
  | notANumber negative => cases negative <;> exact .inl rfl
  | infinity negative => exact .inr (begins_apart negative (by decide))
  | number isNumber =>
      obtain ⟨negative, isWhole, _, _⟩ := isNumber
      obtain ⟨digit, digits, rfl⟩ :=
        List.exists_cons_of_ne_nil isWhole.nonempty
      have isDigit := isWhole.all digit List.mem_cons_self
      refine .inr (begins_apart negative ?_)
      rintro (_ | ⟨_, _ | ⟨_, _ | ⟨_, _ | ⟨_, ⟨⟩⟩⟩⟩⟩) <;> cases isDigit
  | @uuid group _ _ _ _ isGroup =>
      obtain ⟨digit, digits, rfl⟩ :=
        List.exists_cons_of_length_eq_add_one isGroup.length_eq
      have isDigit := isGroup.all digit List.mem_cons_self
      refine .inr (begins_apart false ?_)
      rintro (_ | ⟨_, _ | ⟨_, _ | ⟨_, _ | ⟨_, ⟨⟩⟩⟩⟩⟩) <;> cases isDigit

theorem eq_notANumber {negative : Bool} {first : Char} {rest : List Char}
    (isConstant : IsConstant
      ((Decimal.signText negative).toList ++ first :: rest))
    (letter : first = 's' ∨ first = 'N') : first :: rest = "NaN".toList := by
  have same := isConstant.eq_notANumber_or
  rw [Numeral.splitSign_signText_append negative] at same
  · rcases same with same | other
    · exact same
    · obtain ⟨notSmall, notCapital⟩ := other first rfl
      rcases letter with rfl | rfl <;> contradiction
  · rintro _ ⟨⟩
    rcases letter with rfl | rfl <;> decide

end IsConstant

namespace Decimal

/-- Whether a result without a number tells more than that it is none. -/
def isDiagnostic : Decimal → Bool
  | .notANumber _ signaling payload => signaling || payload != 0
  | _ => false

theorem isConstant_text_iff (decimal : Decimal) :
    IsConstant decimal.text.toList ↔ decimal.isDiagnostic = false := by
  cases decimal with
  | finite numeral => exact iff_of_true (.number (.numeralText numeral)) rfl
  | infinite negative =>
      exact iff_of_true (by simpa [text] using IsConstant.infinity negative) rfl
  | notANumber negative signaling payload =>
      rw [text, isDiagnostic]
      constructor
      · intro isConstant
        rw [String.append_assoc, String.toList_append,
          String.toList_append] at isConstant
        cases signaling with
        | true => cases isConstant.eq_notANumber (.inl rfl)
        | false =>
            have same : "NaN".toList ++ (if payload = 0 then ""
                else toString payload).toList = "NaN".toList :=
              isConstant.eq_notANumber (.inr rfl)
            have nothing := List.append_right_eq_self.mp same
            by_contra tells
            have positive : payload ≠ 0 := by simpa using tells
            rw [if_neg positive, Nat.toString_eq_repr, Nat.toList_repr]
              at nothing
            exact Nat.toDigits_ne_nil nothing
      · intro plain
        obtain ⟨rfl, rfl⟩ : signaling = false ∧ payload = 0 := by
          simpa using plain
        simpa using IsConstant.notANumber negative

end Decimal

theorem IsConstant.binary64 (number : Binary64) :
    IsConstant number.constant.toList := by
  cases number with
  | notANumber => exact .notANumber false
  | infinite negative =>
      cases negative with
      | false => exact .infinity false
      | true => exact .infinity true
  | finite negative index => exact .number (.magnitudeText negative _ index)

/-! ## Values -/

namespace Value

def isDiagnostic : Value → Bool
  | .decimal value => value.isDiagnostic
  | _ => false

theorem isConstant_constant_iff {value : Value} {text : String}
    (written : value.constant = .ok text) :
    IsConstant text.toList ↔ value.isDiagnostic = false := by
  cases value
  case int number =>
      obtain ⟨_, rfl⟩ := constant_int_eq_ok.mp written
      exact iff_of_true (.number (.repr number)) rfl
  -- injectivity, so that no constant is computed
  all_goals simp only [constant, Except.ok.injEq, reduceCtorEq] at written
  all_goals subst written
  case decimal value => exact value.isConstant_text_iff
  all_goals refine iff_of_true ?_ rfl
  case bool value => exact .truth value
  case float value => exact .binary64 value
  case uuid value => exact .uuidText value
  case bytes value | byteArray value => exact .hexBytes value
  all_goals exact .quotedConstant _

/-- A value without a constant is refused as an expression, if the report can
show it; a number of too many digits has no report. -/
theorem category_of_constant_eq_error {value : Value} {cause : CompileError}
    (refused : value.constant = .error cause) :
    cause.report?.map ErrorReport.category =
      if value.isWritable then some .expression else none := by
  cases value
  case int number =>
      obtain ⟨unwritable, rfl⟩ := constant_int_eq_error.mp refused
      rw [isWritable, unwritable]
      rfl
  all_goals simp only [constant, Except.error.injEq, reduceCtorEq] at refused
  all_goals subst refused
  case null => rfl
  all_goals
    rw [CompileError.report?, CompileError.showing]
    split <;> rfl

/-- What has a constant is written as one, apart from numbers of too many digits
and diagnostic decimals, and everything else is refused. -/
theorem constant_grammar (value : Value) :
    ((∃ text, value.constant = .ok text) ↔
        value.isAtomic ∧ value.isWritable) ∧
      (∀ text, value.constant = .ok text →
        (IsConstant text.toList ↔ value.isDiagnostic = false)) ∧
      ∀ cause, value.constant = .error cause →
        cause.report?.map ErrorReport.category =
          if value.isWritable then some .expression else none :=
  ⟨exists_constant_iff, fun _ written => isConstant_constant_iff written,
    fun _ refused => category_of_constant_eq_error refused⟩

theorem constant_grammar_quietDecimal :
    (Value.decimal (.notANumber true false 0)).constant = .ok "-NaN" ∧
      IsConstant "-NaN".toList := by
  have written : (Value.decimal (.notANumber true false 0)).constant =
      .ok "-NaN" := by cbv
  exact ⟨written, ((constant_grammar _).2.1 _ written).mpr rfl⟩

/-- What signals is written, although there is no constant for it. -/
theorem constant_of_signalingDecimal :
    (Value.decimal (.notANumber false true 0)).constant = .ok "sNaN" ∧
      ¬ IsConstant "sNaN".toList := by
  have written : (Value.decimal (.notANumber false true 0)).constant =
      .ok "sNaN" := by cbv
  refine ⟨written, fun isConstant => ?_⟩
  cases (isConstant_constant_iff written).mp isConstant

end Value

end StructuredCql
