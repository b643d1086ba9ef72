import StructuredCql.Text.Basic

/-!
# Decimal numbers

A decimal numeral is a sign, a coefficient and a power of ten.  Decimals are
the numerals and the two kinds of values that are no numbers: infinities and
results without a number, which may carry a payload.
-/

namespace StructuredCql

/-! ## Numerals

The written form has digits with an optional point among them and an optional
exponent.
-/

/-- The number coefficient · 10 ^ exponent, negated where the sign says so. -/
structure Numeral where
  negative : Bool
  coefficient : Nat
  exponent : Int
deriving DecidableEq, Repr

namespace Numeral

open StructuredCql.Text

def splitSign : List Char → Bool × List Char
  | '-' :: rest => (true, rest)
  | '+' :: rest => (false, rest)
  | text => (false, text)

def ofParts (negative : Bool) (whole fraction : List Char) (power : Int) :
    Numeral :=
  ⟨negative, digitsValue (whole ++ fraction), power - fraction.length⟩

def readPower? : List Char → Option Int
  | [] => some 0
  | mark :: rest =>
      if mark = 'e' ∨ mark = 'E' then
        let (negative, digits) := splitSign rest
        if digits.isEmpty ∨ !digits.all Char.isDigit then none
        else if negative then some (-(digitsValue digits : Int))
        else some (digitsValue digits)
      else
        none

def ofText? (text : List Char) : Option Numeral :=
  let (negative, text) := splitSign text
  let whole := text.takeWhile Char.isDigit
  let afterWhole := text.dropWhile Char.isDigit
  let (fraction, afterFraction) := match afterWhole with
    | '.' :: rest => (rest.takeWhile Char.isDigit, rest.dropWhile Char.isDigit)
    | rest => ([], rest)
  if whole.isEmpty ∧ fraction.isEmpty then none
  else (readPower? afterFraction).map (ofParts negative whole fraction)

end Numeral

/-! ## Decimals -/

inductive Decimal where
  | finite (numeral : Numeral)
  | infinite (negative : Bool)
  | notANumber (negative signaling : Bool) (payload : Nat)
deriving DecidableEq, Repr

namespace Decimal

open StructuredCql.Text

def signText (negative : Bool) : String :=
  if negative then "-" else ""

def signedText (number : Int) : String :=
  if number < 0 then toString number else "+" ++ toString number

/-- The digits with a point after the given number of them; missing places on
either side are zeros. -/
def pointed (digits : List Char) (place : Int) : String :=
  if place ≤ 0 then
    String.ofList
      ('0' :: '.' :: (List.replicate (-place).toNat '0' ++ digits))
  else if digits.length ≤ place then
    String.ofList
      (digits ++ List.replicate (place.toNat - digits.length) '0')
  else
    String.ofList
      (digits.take place.toNat ++ '.' :: digits.drop place.toNat)

/-- Scientific text: positional where the exponent is not positive and fewer
than six zeros follow the point, otherwise one digit before the point and an
exponent. -/
def numeralText (numeral : Numeral) : String :=
  let digits := Nat.toDigits 10 numeral.coefficient
  let place := numeral.exponent + digits.length
  let body :=
    if numeral.exponent ≤ 0 ∧ -6 < place then
      pointed digits place
    else if place = 1 then
      pointed digits 1
    else
      pointed digits 1 ++ "E" ++ signedText (place - 1)
  signText numeral.negative ++ body

def text : Decimal → String
  | .finite numeral => numeralText numeral
  | .infinite negative => signText negative ++ "Infinity"
  | .notANumber negative signaling payload =>
      signText negative ++ (if signaling then "sNaN" else "NaN") ++
        (if payload = 0 then "" else toString payload)

def readPayload (negative signaling : Bool) (digits : List Char) :
    Option Decimal :=
  if digits.all Char.isDigit then
    some (.notANumber negative signaling (digitsValue digits))
  else
    none

/-- Blanks around the text and underscores inside it do not count, nor does
the case of the words. -/
def ofText? (text : List Char) : Option Decimal :=
  let text := (trimmed isBlank text).filter (· != '_')
  let (negative, body) := Numeral.splitSign text
  match body.map Char.toLower with
  | ['i', 'n', 'f'] => some (.infinite negative)
  | ['i', 'n', 'f', 'i', 'n', 'i', 't', 'y'] => some (.infinite negative)
  | 'n' :: 'a' :: 'n' :: payload => readPayload negative false payload
  | 's' :: 'n' :: 'a' :: 'n' :: payload => readPayload negative true payload
  | _ => (Numeral.ofText? text).map .finite

def ratio? : Decimal → Option (Int × Nat)
  | .finite ⟨negative, coefficient, exponent⟩ =>
      let numerator := coefficient * Nat.pow 10 exponent.toNat
      some (if negative then -(numerator : Int) else numerator,
        Nat.pow 10 (-exponent).toNat)
  | _ => none

end Decimal

end StructuredCql
