import StructuredCql.Number.Whole
import StructuredCql.Value

/-!
# Reading JSON

A reader takes characters from the front of a text and hands back the rest, of
which it knows that it is no longer than the text.  So the recursion is over
the length, and the place of a fault is the number of characters that are left
there.

Beside the standard values the words for what is no number are read.  Numbers
with a point or an exponent are floating-point numbers, all others are whole
numbers of any size up to a fixed number of digits.
-/

namespace StructuredCql.Json

open StructuredCql.Text

/-! ## Faults

What a malformed text lacks or holds, and where.
-/

inductive Fault where
  | value
  | propertyName
  | colon
  | comma
  | openText
  | controlCharacter
  | escape
  | unicodeEscape
  | furtherText
  | byteOrderMark
deriving DecidableEq, Repr

def Fault.message : Fault → String
  | .value => "Expecting value"
  | .propertyName => "Expecting property name enclosed in double quotes"
  | .colon => "Expecting ':' delimiter"
  | .comma => "Expecting ',' delimiter"
  | .openText => "Unterminated string starting at"
  | .controlCharacter => "Invalid control character at"
  | .escape => "Invalid \\escape"
  | .unicodeEscape => "Invalid \\uXXXX escape"
  | .furtherText => "Extra data"
  | .byteOrderMark => "Unexpected UTF-8 BOM (decode using utf-8-sig)"

/-- A text is malformed where so many of its characters are left, or it holds
a whole number with too many digits. -/
inductive Failure where
  | malformed (fault : Fault) (left : Nat)
  | oversizedInteger (digits : Nat)
deriving DecidableEq, Repr

def placeText (text : List Char) (position : Nat) : String :=
  let before := text.take position
  let line := before.count '\n' + 1
  let column := (before.reverse.takeWhile (· != '\n')).length + 1
  "line " ++ toString line ++ " column " ++ toString column ++
    " (char " ++ toString position ++ ")"

def Fault.messageAt (fault : Fault) (text : List Char) (left : Nat) : String :=
  fault.message ++ ": " ++ placeText text (text.length - left)

/-! ## Reading -/

abbrev Rest (text : List Char) : Type :=
  { rest : List Char // rest.length ≤ text.length }

abbrev Shorter (text : List Char) : Type :=
  { rest : List Char // rest.length < text.length }

abbrev Outcome (α : Type) : Type := Except Failure α

def faultAt (fault : Fault) (rest : List Char) : Outcome α :=
  .error (.malformed fault rest.length)

def isBlank (character : Char) : Bool :=
  character = ' ' || character = '\t' || character = '\n' || character = '\r'

def skipBlanks : (text : List Char) → Rest text
  | [] => ⟨[], Nat.le_refl _⟩
  | character :: text =>
      if isBlank character then
        let ⟨rest, shorter⟩ := skipBlanks text
        ⟨rest, Nat.le_succ_of_le shorter⟩
      else
        ⟨character :: text, Nat.le_refl _⟩

/-! ## Texts -/

def simpleEscape? : Char → Option Char
  | '"' => some '"'
  | '\\' => some '\\'
  | '/' => some '/'
  | 'b' => some '\x08'
  | 'f' => some '\x0c'
  | 'n' => some '\n'
  | 'r' => some '\r'
  | 't' => some '\t'
  | _ => none

def codeUnit? (first second third fourth : Char) : Option Nat := do
  let first ← hexDigitValue? first
  let second ← hexDigitValue? second
  let third ← hexDigitValue? third
  let fourth ← hexDigitValue? fourth
  pure (((first * 16 + second) * 16 + third) * 16 + fourth)

def isHighSurrogate (unit : Nat) : Bool := 0xD800 ≤ unit && unit < 0xDC00

def isLowSurrogate (unit : Nat) : Bool := 0xDC00 ≤ unit && unit < 0xE000

/-- The character of a code unit; half a pair without the other half has
none and is replaced. -/
def unitCharacter (unit : Nat) : Char :=
  if unit.isValidChar then Char.ofNat unit else '\uFFFD'

def pairCharacter (high low : Nat) : Char :=
  Char.ofNat (0x10000 + (high - 0xD800) * 0x400 + (low - 0xDC00))

/-- The rest of a text after its opening mark, of which so many characters are
left at the opening mark.  A code unit needs a character after its digits. -/
def readText (opening : Nat) : (text : List Char) →
    Outcome (List Char × Rest text)
  | [] => .error (.malformed .openText opening)
  | '"' :: text => .ok ([], ⟨text, Nat.le_succ _⟩)
  | ['\\'] => .error (.malformed .openText opening)
  | '\\' :: 'u' :: first :: second :: third :: fourth :: next :: text =>
      match codeUnit? first second third fourth with
      | none => faultAt .unicodeEscape
          ('u' :: first :: second :: third :: fourth :: next :: text)
      | some unit =>
          match isHighSurrogate unit, next, text with
          | true, '\\',
              'u' :: fifth :: sixth :: seventh :: eighth :: after :: further =>
              match codeUnit? fifth sixth seventh eighth with
              | some low =>
                  if isLowSurrogate low then
                    match readText opening (after :: further) with
                    | .error failure => .error failure
                    | .ok (characters, ⟨rest, shorter⟩) =>
                        .ok (pairCharacter unit low :: characters,
                          ⟨rest, by simp at shorter ⊢; omega⟩)
                  else
                    match readText opening ('\\' :: 'u' :: fifth :: sixth ::
                        seventh :: eighth :: after :: further) with
                    | .error failure => .error failure
                    | .ok (characters, ⟨rest, shorter⟩) =>
                        .ok (unitCharacter unit :: characters,
                          ⟨rest, by simp at shorter ⊢; omega⟩)
              | none => faultAt .unicodeEscape
                  ('u' :: fifth :: sixth :: seventh :: eighth :: after ::
                    further)
          | _, next, text =>
              match readText opening (next :: text) with
              | .error failure => .error failure
              | .ok (characters, ⟨rest, shorter⟩) =>
                  .ok (unitCharacter unit :: characters,
                    ⟨rest, by simp at shorter ⊢; omega⟩)
  | '\\' :: 'u' :: text => faultAt .unicodeEscape ('u' :: text)
  | '\\' :: mark :: text =>
      match simpleEscape? mark with
      | none => faultAt .escape ('\\' :: mark :: text)
      | some character =>
          match readText opening text with
          | .error failure => .error failure
          | .ok (characters, ⟨rest, shorter⟩) =>
              .ok (character :: characters,
                ⟨rest, by simp at shorter ⊢; omega⟩)
  | character :: text =>
      if character.toNat < 0x20 then
        faultAt .controlCharacter (character :: text)
      else
        match readText opening text with
        | .error failure => .error failure
        | .ok (characters, ⟨rest, shorter⟩) =>
            .ok (character :: characters,
              ⟨rest, by simp at shorter ⊢; omega⟩)
termination_by text => text.length

/-! ## Numbers -/

def splitDigits (text : List Char) : List Char × Rest text :=
  (text.takeWhile Char.isDigit,
    ⟨text.dropWhile Char.isDigit, by
      have := congrArg List.length
        (List.takeWhile_append_dropWhile (p := Char.isDigit) (l := text))
      simp only [List.length_append] at this
      omega⟩)

def readWhole? : (text : List Char) → Option (List Char × Shorter text)
  | '0' :: text => some (['0'], ⟨text, Nat.lt_succ_self _⟩)
  | digit :: text =>
      if digit.isDigit then
        let (digits, ⟨rest, shorter⟩) := splitDigits text
        some (digit :: digits, ⟨rest, Nat.lt_succ_of_le shorter⟩)
      else
        none
  | [] => none

def readFraction : (text : List Char) → List Char × Rest text
  | '.' :: text =>
      match splitDigits text with
      | ([], _) => ([], ⟨'.' :: text, Nat.le_refl _⟩)
      | (digits, ⟨rest, shorter⟩) =>
          (digits, ⟨rest, Nat.le_succ_of_le shorter⟩)
  | text => ([], ⟨text, Nat.le_refl _⟩)

def readPower (text : List Char) : Option Int × Rest text :=
  match text with
  | mark :: sign :: tail =>
      if mark = 'e' ∨ mark = 'E' then
        let signed := sign = '+' ∨ sign = '-'
        let (digits, ⟨rest, shorter⟩) :=
          splitDigits (if signed then tail else sign :: tail)
        if digits.isEmpty then
          (none, ⟨mark :: sign :: tail, Nat.le_refl _⟩)
        else
          let power : Int := digitsValue digits
          (some (if sign = '-' then -power else power),
            ⟨rest, by split at shorter <;> simp at shorter ⊢ <;> omega⟩)
      else
        (none, ⟨mark :: sign :: tail, Nat.le_refl _⟩)
  | text => (none, ⟨text, Nat.le_refl _⟩)

def readNumber (negative : Bool) (text : List Char) :
    Option (Outcome (Value × Shorter text)) :=
  match readWhole? text with
  | none => none
  | some (whole, ⟨afterWhole, shorter⟩) =>
      let (fraction, ⟨afterFraction, shorterFraction⟩) :=
        readFraction afterWhole
      let (power, ⟨rest, shorterPower⟩) := readPower afterFraction
      let rest : Shorter text := ⟨rest, by omega⟩
      if fraction.isEmpty ∧ power.isNone then
        if Whole.longest < whole.length then
          some (.error (.oversizedInteger whole.length))
        else
          let number : Int := digitsValue whole
          some (.ok (.int (if negative then -number else number), rest))
      else
        some (.ok (.float (Binary64.ofNumeral
          (Numeral.ofParts negative whole fraction (power.getD 0))), rest))

/-! ## Words and values -/

def afterWord? : (word text : List Char) → Option (Rest text)
  | [], text => some ⟨text, Nat.le_refl _⟩
  | _ :: _, [] => none
  | expected :: word, character :: text =>
      if expected = character then
        (afterWord? word text).map fun ⟨rest, shorter⟩ =>
          ⟨rest, Nat.le_succ_of_le shorter⟩
      else
        none

def wordTail? : Char → Option (List Char × Value)
  | 'n' => some ("ull".toList, .null)
  | 't' => some ("rue".toList, .bool true)
  | 'f' => some ("alse".toList, .bool false)
  | 'N' => some ("aN".toList, .float .notANumber)
  | 'I' => some ("nfinity".toList, .float (.infinite false))
  | '-' => some ("Infinity".toList, .float (.infinite true))
  | _ => none

def readWord? (first : Char) (text : List Char) :
    Option (Value × Rest text) := do
  let (tail, value) ← wordTail? first
  let rest ← afterWord? tail text
  pure (value, rest)

def readSimple : (text : List Char) → Outcome (Value × Shorter text)
  | [] => faultAt .value []
  | first :: text =>
      match readWord? first text with
      | some (value, ⟨rest, shorter⟩) =>
          .ok (value, ⟨rest, Nat.lt_succ_of_le shorter⟩)
      | none =>
          if first = '-' then
            match readNumber true text with
            | some (.ok (value, ⟨rest, shorter⟩)) =>
                .ok (value, ⟨rest, Nat.lt_succ_of_lt shorter⟩)
            | some (.error failure) => .error failure
            | none => faultAt .value (first :: text)
          else
            (readNumber false (first :: text)).getD
              (faultAt .value (first :: text))

def afterMark? (mark : Char) (text : List Char) : Option (Shorter text) :=
  match skipBlanks text with
  | ⟨[], _⟩ => none
  | ⟨character :: rest, shorter⟩ =>
      if character = mark then some ⟨rest, shorter⟩ else none

mutual

def readValue (text : List Char) : Outcome (Value × Shorter text) :=
  match text with
  | [] => readSimple []
  | first :: tail =>
      if first = '"' then
        match readText (tail.length + 1) tail with
        | .error failure => .error failure
        | .ok (characters, ⟨rest, shorter⟩) =>
            .ok (.text (String.ofList characters),
              ⟨rest, Nat.lt_succ_of_le shorter⟩)
      else if first = '\x7b' then
        match afterMark? '\x7d' tail with
        | some ⟨rest, shorter⟩ =>
            .ok (.mapping [], ⟨rest, Nat.lt_succ_of_lt shorter⟩)
        | none =>
            match readMembers (skipBlanks tail).1 with
            | .error failure => .error failure
            | .ok (members, ⟨rest, shorter⟩) =>
                let entries := Entries.ofPairs (· = ·) members
                .ok (.mapping (entries.map fun entry =>
                    (.text entry.1, entry.2)),
                  ⟨rest, Nat.lt_succ_of_le
                    (Nat.le_of_lt (Nat.lt_of_lt_of_le shorter
                      (skipBlanks tail).2))⟩)
      else if first = '[' then
        match afterMark? ']' tail with
        | some ⟨rest, shorter⟩ =>
            .ok (.list [], ⟨rest, Nat.lt_succ_of_lt shorter⟩)
        | none =>
            match readItems (skipBlanks tail).1 with
            | .error failure => .error failure
            | .ok (items, ⟨rest, shorter⟩) =>
                .ok (.list items,
                  ⟨rest, Nat.lt_succ_of_le
                    (Nat.le_of_lt (Nat.lt_of_lt_of_le shorter
                      (skipBlanks tail).2))⟩)
      else
        readSimple (first :: tail)
termination_by (text.length, 0)
decreasing_by
  all_goals
    apply Prod.Lex.left
    have := (skipBlanks tail).2
    simp only [List.length_cons]
    omega

def readMembers (text : List Char) :
    Outcome (List (String × Value) × Shorter text) :=
  match text with
  | '"' :: tail =>
      match readText (tail.length + 1) tail with
      | .error failure => .error failure
      | .ok (key, ⟨afterKey, shorterKey⟩) =>
          match afterMark? ':' afterKey with
          | none => faultAt .colon (skipBlanks afterKey).1
          | some ⟨afterColon, shorterColon⟩ =>
              match skipBlanks afterColon with
              | ⟨beforeValue, shorterBefore⟩ =>
                  match readValue beforeValue with
                  | .error failure => .error failure
                  | .ok (value, ⟨afterValue, shorterValue⟩) =>
                      match readFurtherMembers afterValue with
                      | .error failure => .error failure
                      | .ok (members, ⟨rest, shorterRest⟩) =>
                          .ok ((String.ofList key, value) :: members,
                            ⟨rest, by simp only [List.length_cons]; omega⟩)
  | other => faultAt .propertyName other
termination_by (text.length, 1)
decreasing_by
  all_goals
    apply Prod.Lex.left
    simp only [List.length_cons]
    omega

def readFurtherMembers (text : List Char) :
    Outcome (List (String × Value) × Shorter text) :=
  match afterMark? '\x7d' text, afterMark? ',' text with
  | some rest, _ => .ok ([], rest)
  | none, none => faultAt .comma (skipBlanks text).1
  | none, some ⟨afterComma, shorterComma⟩ =>
      match skipBlanks afterComma with
      | ⟨next, shorterNext⟩ =>
          match readMembers next with
          | .error failure => .error failure
          | .ok (members, ⟨rest, shorterRest⟩) =>
              .ok (members, ⟨rest, by omega⟩)
termination_by (text.length, 0)
decreasing_by
  apply Prod.Lex.left
  omega

def readItems (text : List Char) : Outcome (List Value × Shorter text) :=
  match readValue text with
  | .error failure => .error failure
  | .ok (value, ⟨afterValue, shorterValue⟩) =>
      match readFurtherItems afterValue with
      | .error failure => .error failure
      | .ok (items, ⟨rest, shorterRest⟩) =>
          .ok (value :: items, ⟨rest, by omega⟩)
termination_by (text.length, 1)
decreasing_by
  · exact Prod.Lex.right _ (by omega)
  · exact Prod.Lex.left _ _ shorterValue

def readFurtherItems (text : List Char) :
    Outcome (List Value × Shorter text) :=
  match afterMark? ']' text, afterMark? ',' text with
  | some rest, _ => .ok ([], rest)
  | none, none => faultAt .comma (skipBlanks text).1
  | none, some ⟨afterComma, shorterComma⟩ =>
      match skipBlanks afterComma with
      | ⟨next, shorterNext⟩ =>
          match readItems next with
          | .error failure => .error failure
          | .ok (items, ⟨rest, shorterRest⟩) =>
              .ok (items, ⟨rest, by omega⟩)
termination_by (text.length, 0)
decreasing_by
  apply Prod.Lex.left
  omega

end

def read (text : List Char) : Outcome Value :=
  if text.head? = some '\uFEFF' then faultAt .byteOrderMark text
  else
    match readValue (skipBlanks text).1 with
    | .error failure => .error failure
    | .ok (value, ⟨rest, _⟩) =>
        match (skipBlanks rest).1 with
        | [] => .ok value
        | further => faultAt .furtherText further

end StructuredCql.Json
