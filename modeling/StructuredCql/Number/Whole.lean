import StructuredCql.Number.Decimal
import StructuredCql.Text.Basic

/-!
# Whole numbers in texts

A text holds a whole number in its plain form or in a loose one.  The plain
form is a minus sign, if there is one, and digits of which the first is not a
zero that could be left out.  The loose form has white space around it, either
sign, zeros in front, single underscores between the digits and a fraction of
zeros; it is brought into the plain form.  Either way the number of digits is
limited, for the numbers that are read as well as for those that are written.
-/

namespace StructuredCql.Whole

open StructuredCql.Text

def longest : Nat := 4300

def tenthPower (base : Nat) : Nat :=
  base * base * base * base * base * base * base * base * base * base

/-- Ten to the power of the most digits, as 4300 is (4 · 10 + 3) · 10 · 10.
Products of numerals can be computed inside a proof. -/
def leastUnwritable : Nat :=
  tenthPower (tenthPower (tenthPower 10000 * 1000))

def isWritable (value : Int) : Bool := value.natAbs < leastUnwritable

def fits64 (value : Int) : Bool :=
  -0x8000000000000000 ≤ value ∧ value < 0x8000000000000000

def splitMinus : List Char → Bool × List Char
  | '-' :: rest => (true, rest)
  | text => (false, text)

def plain? (text : List Char) : Option Int :=
  let (negative, digits) := splitMinus text
  if digits.isEmpty ∨ !digits.all Char.isDigit then none
  else if digits.head? = some '0' ∧ 1 < digits.length then none
  else if negative then some (-(digitsValue digits : Int))
  else some (digitsValue digits)

def beginsOversized (text : List Char) : Bool :=
  let (negative, digits) := splitMinus text
  let run := digits.takeWhile Char.isDigit
  run.head? ≠ some '0' ∧ longest < run.length + negative.toNat

/-- What follows the zeros in front, among which underscores may stand.  The
last of them is kept where nothing but a fraction follows. -/
def afterZeros (last : Char) : List Char → Option (List Char)
  | [] => some [last]
  | character :: rest =>
      if character = '0' ∨ character = '_' then afterZeros character rest
      else if character = '.' then some (last :: '.' :: rest)
      else if character.isDigit ∨ character = '-' then some (character :: rest)
      else none

def withoutZeros? : List Char → Option (List Char)
  | [] => none
  | digit :: rest =>
      if digit = '0' then afterZeros digit rest
      else if digit.isDigit then some (digit :: rest)
      else none

def withoutFraction (text : List Char) : List Char :=
  match text.dropWhile (· != '.') with
  | '.' :: zero :: zeros =>
      if (zero :: zeros).all (· = '0') then text.takeWhile (· != '.')
      else text
  | _ => text

def hasDoubleUnderscore : List Char → Bool
  | '_' :: '_' :: _ => true
  | _ :: rest => hasDoubleUnderscore rest
  | [] => false

def withoutUnderscores? (text : List Char) : Option (List Char) :=
  if text.head? = some '_' ∨ text.getLast? = some '_' then none
  else if hasDoubleUnderscore text then none
  else some (text.filter (· != '_'))

def loose? (text : List Char) : Option Int := do
  let (negative, body) := Numeral.splitSign (trimmed isWhiteSpace text)
  let significant ← withoutZeros? body
  let digits ← withoutUnderscores? (withoutFraction significant)
  let plain := if negative then '-' :: digits else digits
  if beginsOversized plain then none else plain? plain

end StructuredCql.Whole
