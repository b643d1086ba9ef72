import StructuredCql.Number.Binary64
import StructuredCql.Number.Decimal

/-!
# Shortest decimal text

A floating-point number is written with the fewest decimal digits that round
back to it and, among those, with the digits nearest to it.  All comparisons
are between whole numbers.
-/

namespace StructuredCql.Binary64

/-- Four times the significand, and the ends of the interval that rounds to
the magnitude, all counted in units of 2 ^ (scale - 2).  Below a power of two
the neighbour is only half as far away. -/
structure RoundingInterval where
  lower : Nat
  middle : Nat
  upper : Nat
  closed : Bool
  power : Int
deriving DecidableEq, Repr

def roundingInterval (index : Nat) : RoundingInterval :=
  let significand := significand index
  let narrow := significand = fullSignificand ∧ leastScale < scale index
  { lower := 4 * significand - (if narrow then 1 else 2)
    middle := 4 * significand
    upper := 4 * significand + 2
    closed := significand % 2 = 0
    power := scale index - 2 }

def binaryMeasure (grid power : Int) (count : Nat) : Nat :=
  count * Nat.pow 2 power.toNat * Nat.pow 10 (-grid).toNat

def decimalMeasure (grid power : Int) (count : Nat) : Nat :=
  count * Nat.pow 10 grid.toNat * Nat.pow 2 (-power).toNat

def RoundingInterval.holds (interval : RoundingInterval) (grid : Int)
    (count : Nat) : Bool :=
  let point := decimalMeasure grid interval.power count
  let lower := binaryMeasure grid interval.power interval.lower
  let upper := binaryMeasure grid interval.power interval.upper
  if interval.closed then lower ≤ point && point ≤ upper
  else lower < point && point < upper

/-- The better of the two neighbours of the magnitude on a decimal grid, if
one of them rounds back; a tie goes to the even one. -/
def RoundingInterval.candidate? (interval : RoundingInterval) (grid : Int) :
    Option Nat :=
  let middle := binaryMeasure grid interval.power interval.middle
  let unit := decimalMeasure grid interval.power 1
  let below := middle / unit
  match interval.holds grid below, interval.holds grid (below + 1) with
  | false, false => none
  | true, false => some below
  | false, true => some (below + 1)
  | true, true =>
      let rest := 2 * (middle % unit)
      if unit < rest ∨ (rest = unit ∧ below % 2 = 1) then some (below + 1)
      else some below

/-- The number of digits before the point, negative where zeros follow it.
Every positive magnitude is at least 10 ^ -324. -/
def RoundingInterval.place (interval : RoundingInterval) : Int :=
  let scaled := binaryMeasure (-324) interval.power interval.middle /
    decimalMeasure (-324) interval.power 1
  (Nat.toDigits 10 scaled).length - 324

def exactDecimal (index : Nat) : Nat × Int :=
  let scale := scale index
  (significand index * Nat.pow 2 scale.toNat * Nat.pow 5 (-scale).toNat,
    min scale 0)

/-- Coefficient and exponent of the shortest decimal of a positive magnitude.
Seventeen digits always suffice; the exact value stands behind the search only
to make it total. -/
def shortestDecimal (index : Nat) : Nat × Int :=
  let interval := roundingInterval index
  let found := (List.range 17).findSome? fun (count : Nat) =>
    let grid := interval.place - ((count : Int) + 1)
    (interval.candidate? grid).map fun coefficient => (coefficient, grid)
  found.getD (exactDecimal index)

/-- How digits are laid out: the decimal exponents between the bounds are
written positionally, all others with an exponent of some least width. -/
structure Layout where
  leastPositional : Int
  leastScientific : Int
  exponentWidth : Nat
deriving DecidableEq, Repr

def plainLayout : Layout := ⟨-4, 16, 2⟩

def withoutFinalZeros (digits : List Char) : List Char :=
  match (digits.reverse.dropWhile (· = '0')).reverse with
  | [] => ['0']
  | rest => rest

/-- Digits that stand before the point are followed by a point and a zero
where no others are left. -/
def Layout.lay (layout : Layout) (digits : List Char) (place : Int) : String :=
  let exponent := place - 1
  if layout.leastPositional ≤ exponent ∧ exponent < layout.leastScientific then
    let body := Decimal.pointed digits place
    if digits.length ≤ place then body ++ ".0" else body
  else
    let sign := if exponent < 0 then "-" else "+"
    Decimal.pointed digits 1 ++ "e" ++ sign ++
      Text.paddedDigits layout.exponentWidth exponent.natAbs

def magnitudeText (layout : Layout) (index : Nat) : String :=
  if index = 0 then "0.0"
  else
    let (coefficient, exponent) := shortestDecimal index
    let digits := Nat.toDigits 10 coefficient
    layout.lay (withoutFinalZeros digits) (exponent + digits.length)

def text : Binary64 → String
  | .finite negative index =>
      (if negative then "-" else "") ++ magnitudeText plainLayout index
  | .infinite negative => if negative then "-inf" else "inf"
  | .notANumber => "nan"

end StructuredCql.Binary64
