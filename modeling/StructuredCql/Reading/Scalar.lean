import StructuredCql.Number.Whole
import StructuredCql.Reading.Issue
import StructuredCql.Text.Basic
import StructuredCql.Value

/-!
# Reading single values

Texts, whole numbers and truth values out of the kinds of values that may
stand for them.
-/

namespace StructuredCql

open StructuredCql.Text

namespace Value

/-- Words of closed sets are texts, and so are bytes that decode.  What asks
for a generated value goes by the name of the function that gives it. -/
def readText : Value → Reading String
  | .text value => .ok value
  | .word value => .ok value.name
  | .now => .ok CqlFunction.now.planName
  | .bytes value | .byteArray value =>
      match decodeUtf8 value with
      | some characters => .ok (String.ofList characters)
      | none => .fail .stringUnicode
  | _ => .fail .stringType

def readOptionalText : Value → Reading (Option String)
  | .null => .ok none
  | value => value.readText.map some

def readMember (ofName? : String → Option α) (value : Value) : Reading α :=
  match value.readText with
  | .ok name =>
      match ofName? name with
      | some result => .ok result
      | none => .fail .unknownMember
  | .error _ => .fail .unknownMember

def readLiteral (ofName? : String → Option α) (value : Value) : Reading α :=
  match value with
  | .text name =>
      match ofName? name with
      | some result => .ok result
      | none => .fail .unknownLiteral
  | _ => .fail .unknownLiteral

/-- A whole number from text.  Too many digits are told from a text that is
no number only in the plain form. -/
def readIntegerText (text : List Char) : Reading Int :=
  if Whole.beginsOversized text then .fail .integerParsingSize
  else
    match (Whole.plain? text).or (Whole.loose? text) with
    | some value => .ok value
    | none => .fail .integerParsing

def readRatio (bounded : Bool) (ratio : Option (Int × Nat)) : Reading Int :=
  match ratio with
  | none => .fail .finiteNumber
  | some (numerator, denominator) =>
      if numerator % denominator ≠ 0 then .fail .integerFromFraction
      else
        let whole := numerator / denominator
        if bounded ∧ (whole ≤ -0x8000000000000000 ∨
            0x8000000000000000 ≤ whole) then
          .fail .integerParsingSize
        else
          .ok whole

/-- Floating-point numbers have to lie within 64 bits, all other kinds of
numbers may be of any size. -/
def readInteger : Value → Reading Int
  | .int value => .ok value
  | .bool value => .ok (if value then 1 else 0)
  | .float value => readRatio true value.ratio?
  | .decimal value => readRatio false value.ratio?
  | .text value => readIntegerText value.toList
  | .word value => readIntegerText value.name.toList
  | .bytes value =>
      match decodeUtf8 value with
      | some characters => readIntegerText characters
      | none => .fail .integerParsing
  | _ => .fail .integerType

def readCount (value : Value) : Reading Nat :=
  match value.readInteger with
  | .ok count => if count < 0 then .fail .belowLeast else .ok count.toNat
  | .error issues => .error issues

def falseWords : List String := ["0", "off", "f", "false", "n", "no"]

def trueWords : List String := ["1", "on", "t", "true", "y", "yes"]

def readBoolText (text : String) : Reading Bool :=
  if falseWords.contains text.toLower then .ok false
  else if trueWords.contains text.toLower then .ok true
  else .fail .boolParsing

def readBoolInteger (value : Int) : Reading Bool :=
  if value = 0 then .ok false
  else if value = 1 then .ok true
  else .fail .boolParsing

def readBoolFloat (value : Binary64) : Reading Bool :=
  match readRatio true value.ratio? with
  | .ok whole => readBoolInteger whole
  | .error _ => .fail .boolType

/-- A truth value, one of the words for it in any case, or zero and one as a
number of any kind.  Other whole numbers of 64 bits are told from all else.  A
decimal counts as the floating-point number next to it. -/
def readBool : Value → Reading Bool
  | .bool value => .ok value
  | .int value =>
      if Whole.fits64 value then readBoolInteger value else .fail .boolType
  | .float value => readBoolFloat value
  | .decimal (.finite numeral) => readBoolFloat (Binary64.ofNumeral numeral)
  | .text value => readBoolText value
  | .word value => readBoolText value.name
  | .bytes value =>
      match decodeUtf8 value with
      | some characters => readBoolText (String.ofList characters)
      | none => .fail .boolParsing
  | _ => .fail .boolType

end Value

end StructuredCql
