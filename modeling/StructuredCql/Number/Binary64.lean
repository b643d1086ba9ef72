import StructuredCql.Number.Decimal
import StructuredCql.Text.Basic

/-!
# Floating-point numbers

The finite magnitudes of the format with 53 significant bits are numbered in
ascending order, from zero on.  The index of a magnitude is its bit pattern
without the sign, so rounding is the search for the nearest index.
-/

namespace StructuredCql

abbrev finiteMagnitudes : Nat := 0x7FF0000000000000

inductive Binary64 where
  | finite (negative : Bool) (index : Fin finiteMagnitudes)
  | infinite (negative : Bool)
  | notANumber
deriving DecidableEq, Repr

namespace Binary64

open StructuredCql.Text

def fullSignificand : Nat := 0x10000000000000

def leastScale : Int := -1074

/-- The magnitude with an index is significand · 2 ^ scale. -/
def significand (index : Nat) : Nat :=
  if index < fullSignificand then index
  else fullSignificand + index % fullSignificand

def scale (index : Nat) : Int :=
  if index < fullSignificand then leastScale
  else (index / fullSignificand : Nat) - 1 + leastScale

def roundedQuotient (numerator denominator : Nat) : Nat :=
  let quotient := numerator / denominator
  let rest := 2 * (numerator % denominator)
  if denominator < rest ∨ (rest = denominator ∧ quotient % 2 = 1) then
    quotient + 1
  else
    quotient

def scaledRatio (numerator denominator : Nat) (power : Int) : Nat × Nat :=
  (numerator * Nat.pow 2 (-power).toNat, denominator * Nat.pow 2 power.toNat)

/-- The power of two at or below a positive ratio.  The difference of the bit
lengths is that power or one more. -/
def leadingPower (numerator denominator : Nat) : Int :=
  let estimate : Int := (Nat.log2 numerator : Int) - Nat.log2 denominator
  let (above, below) := scaledRatio numerator denominator estimate
  if below ≤ above then estimate else estimate - 1

/-- The index of the magnitude nearest to a ratio.  A significand that rounds
up to one bit more gives the next index without further ado. -/
def nearestIndex (numerator denominator : Nat) : Nat :=
  if numerator = 0 then 0
  else
    let power := max (leadingPower numerator denominator - 52) leastScale
    let (above, below) := scaledRatio numerator denominator power
    (power - leastScale).toNat * fullSignificand + roundedQuotient above below

def ofRatio (negative : Bool) (numerator denominator : Nat) : Binary64 :=
  let index := nearestIndex numerator denominator
  if inRange : index < finiteMagnitudes then .finite negative ⟨index, inRange⟩
  else .infinite negative

/-- The nearest number.  Beyond 10 ^ 310 all is infinite and below 10 ^ -330
all is zero, so no power out of these bounds is computed. -/
def ofNumeral (numeral : Numeral) : Binary64 :=
  let length := (Nat.toDigits 10 numeral.coefficient).length
  if numeral.coefficient = 0 ∨ numeral.exponent + length < -330 then
    ofRatio numeral.negative 0 1
  else if 310 < numeral.exponent + length then
    .infinite numeral.negative
  else
    ofRatio numeral.negative
      (numeral.coefficient * Nat.pow 10 numeral.exponent.toNat)
      (Nat.pow 10 (-numeral.exponent).toNat)

def ofText? (text : List Char) : Option Binary64 :=
  let text := trimmed isBlank text
  let (negative, body) := Numeral.splitSign text
  match body.map Char.toLower with
  | ['n', 'a', 'n'] => some .notANumber
  | ['i', 'n', 'f'] => some (.infinite negative)
  | ['i', 'n', 'f', 'i', 'n', 'i', 't', 'y'] => some (.infinite negative)
  | _ => (Numeral.ofText? text).map ofNumeral

def ratio? : Binary64 → Option (Int × Nat)
  | .finite negative index =>
      let (numerator, denominator) :=
        scaledRatio (significand index) 1 (-(scale index))
      some (if negative then -(numerator : Int) else numerator, denominator)
  | _ => none

end Binary64

end StructuredCql
