import StructuredCql.Proofs.Constants.Hexadecimal
import StructuredCql.Proofs.Constants.Numerals
import StructuredCql.Proofs.Digits
import StructuredCql.Proofs.Grammar.Filter

/-!
# Constants read back

What a constant tells is a text, a truth value, a number, bytes or an
identifier.  One reader takes the constant off the beginning of a text: quotes
mark a text, and all other kinds are bare words, which no two kinds share.
The main statement is that every constant is read back wherever an operand may
end behind it, so different values of these kinds are never written alike.
-/

namespace StructuredCql

open StructuredCql.Text

inductive Constant where
  | text (content : String)
  | truth (value : Bool)
  | number (numeral : Numeral)
  | bytes (value : List UInt8)
  | uuid (value : Uuid)
deriving DecidableEq, Repr

/-- What the constant for a value tells.  A whole number has no power of ten,
and dates and times are told by their texts.  Floating-point numbers, and
decimals that are no numbers, are left out. -/
def Value.denoted? : Value → Option Constant
  | .bool value => some (.truth value)
  | .int value => some (.number ⟨decide (value < 0), value.natAbs, 0⟩)
  | .decimal (.finite numeral) => some (.number numeral)
  | .uuid value => some (.uuid value)
  | .bytes value | .byteArray value => some (.bytes value)
  | value => value.quotedText?.map .text

namespace Constant

/-- A doubled apostrophe stands for one, and the last one closes the text. -/
def content : List Char → List Char
  | '\'' :: '\'' :: rest => '\'' :: content rest
  | ['\''] => []
  | character :: rest => character :: content rest
  | [] => []

def bytes? : List Char → Option (List UInt8)
  | '0' :: 'x' :: digits => (digits.mapM hexDigitValue?).bind bytesOfDigits?
  | _ => none

def truth? (word : List Char) : Option Bool :=
  if word = "TRUE".toList then some true
  else if word = "FALSE".toList then some false
  else none

/-- What a bare word tells.  A word of digits alone is a number, although an
identifier may be written without its hyphens. -/
def ofWord? (word : List Char) : Option Constant :=
  ((Numeral.ofText? word).map number).or <|
    ((Uuid.ofText? word).map uuid).or <|
      ((bytes? word).map bytes).or ((truth? word).map truth)

/-- The constant at the beginning of a text, and what follows it. -/
def read : List Char → Option (Constant × List Char)
  | '\'' :: quoted =>
      (Term.readQuoted quoted).map fun read =>
        (.text (String.ofList (content read.1)), read.2)
  | unquoted =>
      (ofWord? (Term.word unquoted)).map (·, Term.afterWord unquoted)

/-! ## Quoted texts -/

theorem content_doubleApostrophes (text : List Char) :
    content (doubleApostrophes text ++ ['\'']) = text := by
  induction text using doubleApostrophes.induct with
  | case1 => rfl
  | case2 rest ih =>
      rw [doubleApostrophes, List.cons_append, List.cons_append, content, ih]
  | case3 character rest plain ih =>
      rw [doubleApostrophes.eq_3 _ _ plain, List.cons_append, content, ih]
      · exact fun _ same _ => plain same
      · exact fun same _ => plain same

theorem read_quotedConstant_append (text : String) {rest : List Char}
    (stops : Term.Stops rest) :
    read ((quotedConstant text).toList ++ rest) = some (.text text, rest) := by
  have closed : rest.head? ≠ some '\'' := by
    intro quote
    have := stops '\'' quote
    simp at this
  have spelled : (quotedConstant text).toList ++ rest =
      '\'' :: (doubleApostrophes text.toList ++ '\'' :: rest) := by
    simp [quotedConstant]
  rw [spelled, read, Term.readQuoted_append _ closed, Option.map_some,
    content_doubleApostrophes, String.ofList_toList]

/-! ## Bare words -/

theorem read_word_append {word rest : List Char} {constant : Constant}
    (isWord : Term.IsWord word) (stops : Term.Stops rest)
    (known : ofWord? word = some constant) :
    read (word ++ rest) = some (constant, rest) := by
  obtain ⟨same, after⟩ := Term.word_append
    (fun character member => (isWord.free character member).1) stops.parted
  rw [read]
  · rw [same, after, known]
    rfl
  · exact fun other => isWord.not_quoted rest other

theorem ofWord?_of_numeral {word : List Char} {numeral : Numeral}
    (read : Numeral.ofText? word = some numeral) :
    ofWord? word = some (.number numeral) := by
  rw [ofWord?, read]
  rfl

theorem ofWord?_uuid (value : Uuid) :
    ofWord? value.text.toList = some (.uuid value) := by
  have noNumeral : Numeral.ofText? value.text.toList = none := by
    cases found : Numeral.ofText? value.text.toList with
    | none => rfl
    | some numeral =>
        have few := Numeral.count_hyphen_le_two found
        rw [value.count_hyphen_text] at few
        omega
  rw [ofWord?, noNumeral, value.ofText?_text]
  rfl

theorem ofWord?_bytes (value : List UInt8) :
    ofWord? ("0x" ++ hexBytes value).toList = some (.bytes value) := by
  obtain ⟨digits, read, same⟩ := exists_digits_of_hexBytes value
  have spelled : ("0x" ++ hexBytes value).toList =
      '0' :: 'x' :: (hexBytes value).toList := by
    rw [String.toList_append]
    rfl
  have noNumeral : Numeral.ofText? ('0' :: 'x' :: (hexBytes value).toList) =
      none := rfl
  have noUuid : Uuid.ofText? ('0' :: 'x' :: (hexBytes value).toList) =
      none := rfl
  rw [spelled, ofWord?, noNumeral, noUuid, bytes?, read, Option.bind_some, same]
  rfl

theorem ofWord?_truth (value : Bool) :
    ofWord? (if value then "TRUE" else "FALSE").toList =
      some (.truth value) := by
  cases value <;> rfl

/-! ## Values -/

theorem ofWord?_of_denoted {value : Value} {constant : Constant} {text : String}
    (denotes : value.denoted? = some constant)
    (unquoted : value.quotedText? = none)
    (written : value.constant = .ok text) :
    ofWord? text.toList = some constant := by
  cases value
  case int number =>
      cases denotes
      obtain ⟨_, rfl⟩ := Value.constant_int_eq_ok.mp written
      rw [Int.toString_eq_repr]
      exact ofWord?_of_numeral (Numeral.ofText?_repr number)
  -- injectivity, so that no constant is computed
  all_goals simp only [Value.constant, Except.ok.injEq, reduceCtorEq] at written
  case bool value =>
      cases denotes
      subst written
      exact ofWord?_truth value
  case decimal value =>
      cases value with
      | finite numeral =>
          cases denotes
          subst written
          exact ofWord?_of_numeral (Numeral.ofText?_numeralText numeral)
      | infinite | notANumber => cases denotes
  case uuid value =>
      cases denotes
      subst written
      exact ofWord?_uuid value
  case bytes value | byteArray value =>
      cases denotes
      subst written
      exact ofWord?_bytes value
  case float => cases denotes
  all_goals cases unquoted

theorem eq_text_of_denoted {value : Value} {constant : Constant}
    {content : String} (denotes : value.denoted? = some constant)
    (quoted : value.quotedText? = some content) :
    constant = .text content := by
  have same : value.denoted? = value.quotedText?.map .text := by
    cases value with
    | text | word | date | time | timestamp => rfl
    | _ => simp [Value.quotedText?] at quoted
  rw [same, quoted] at denotes
  exact (Option.some.inj denotes).symm

theorem read_append_of_denoted {value : Value} {constant : Constant}
    {text : String} {rest : List Char}
    (denotes : value.denoted? = some constant)
    (written : value.constant = .ok text) (stops : Term.Stops rest) :
    read (text.toList ++ rest) = some (constant, rest) := by
  rcases Value.constant_eq_ok written with
    ⟨content, quoted, rfl⟩ | ⟨unquoted, word⟩
  · rw [eq_text_of_denoted denotes quoted]
    exact read_quotedConstant_append content stops
  · exact read_word_append (.of_bareWord word) stops
      (ofWord?_of_denoted denotes unquoted written)

theorem isAtomic_of_denoted {value : Value} {constant : Constant}
    (denotes : value.denoted? = some constant) : value.isAtomic := by
  cases value <;> first | rfl | cases denotes

/-- A value is written unless it is a number of too many digits, and its
constant is read back in front of whatever may follow an operand.  So what is
written in the same way tells the same. -/
theorem read_constant {value : Value} {constant : Constant}
    (denotes : value.denoted? = some constant) :
    (value.isWritable = false → value.constant = .error .unwritableNumber) ∧
      (value.isWritable → ∃ text, value.constant = .ok text ∧
        (∀ rest, Term.Stops rest →
          read (text.toList ++ rest) = some (constant, rest)) ∧
        ∀ other otherConstant, Value.denoted? other = some otherConstant →
          other.constant = .ok text → otherConstant = constant) := by
  have atomic := isAtomic_of_denoted denotes
  refine ⟨Value.constant_of_isWritable_eq_false atomic, fun writable => ?_⟩
  obtain ⟨text, written⟩ := Value.exists_constant_iff.mpr ⟨atomic, writable⟩
  refine ⟨text, written, fun rest stops =>
    read_append_of_denoted denotes written stops, ?_⟩
  intro other otherConstant otherDenotes otherWritten
  have whole : Term.Stops [] := by simp [Term.Stops]
  have thisRead := read_append_of_denoted denotes written whole
  have otherRead := read_append_of_denoted otherDenotes otherWritten whole
  exact congrArg Prod.fst (Option.some.inj (otherRead.symm.trans thisRead))

theorem read_constant_smallDecimal :
    let small := Value.decimal (.finite ⟨true, 120, -9⟩)
    small.denoted? = some (.number ⟨true, 120, -9⟩) ∧
      small.constant = .ok "-1.20E-7" ∧
      read "-1.20E-7, 'x')".toList =
        some (.number ⟨true, 120, -9⟩, ", 'x')".toList) := by
  intro small
  have denotes : small.denoted? = some (.number ⟨true, 120, -9⟩) := rfl
  have spelled : small.constant = .ok "-1.20E-7" := by cbv
  obtain ⟨text, written, reads, -⟩ := (read_constant denotes).2 rfl
  obtain rfl : "-1.20E-7" = text := Except.ok.inj (spelled.symm.trans written)
  refine ⟨denotes, spelled, reads ", 'x')".toList ?_⟩
  simp [Term.Stops]

/-- The least number with a digit too many tells a constant that no text is
written for. -/
theorem not_exists_constant_of_oversizedInteger :
    let oversized := Value.int ((10 ^ Whole.longest : Nat) : Int)
    oversized.denoted? = some (.number ⟨false, 10 ^ Whole.longest, 0⟩) ∧
      ¬∃ text, oversized.constant = .ok text := by
  intro oversized
  constructor
  · have noSign : ¬((10 ^ Whole.longest : Nat) : Int) < 0 :=
      Int.not_lt.mpr (Int.natCast_nonneg _)
    simp only [oversized, Value.denoted?, noSign, decide_false,
      Int.natAbs_natCast]
  · rintro ⟨text, written⟩
    have writable := (Value.constant_int_eq_ok.mp written).1
    rw [Whole.isWritable_iff, Int.natAbs_natCast] at writable
    exact lt_irrefl _ writable

end Constant

end StructuredCql
