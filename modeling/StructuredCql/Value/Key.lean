import StructuredCql.Value
import StructuredCql.Value.Display

/-!
# Values as keys

Which values are one and the same key of a mapping.
-/

namespace StructuredCql.Value

/-- What a number is worth: a numerator over a positive denominator, or more
or less than any number.  What is no number is worth nothing. -/
inductive Worth where
  | ratio (numerator : Int) (denominator : Nat)
  | infinite (negative : Bool)
  | nothing

def Worth.same : Worth → Worth → Bool
  | .ratio numerator denominator, .ratio other further =>
      numerator * further = other * denominator
  | .infinite negative, .infinite other => negative = other
  | _, _ => false

def worth? : Value → Option Worth
  | .bool value => some (.ratio (if value then 1 else 0) 1)
  | .int value => some (.ratio value 1)
  | .float (.infinite negative) => some (.infinite negative)
  | .float value =>
      some ((value.ratio?.map fun ratio =>
        .ratio ratio.1 ratio.2).getD .nothing)
  | .decimal (.infinite negative) => some (.infinite negative)
  | .decimal value =>
      some ((value.ratio?.map fun ratio =>
        .ratio ratio.1 ratio.2).getD .nothing)
  | _ => none

def sameTime : Value → Value → Option Bool
  | .time left, .time right =>
      some (match left.instant?, right.instant? with
        | some instant, some other => instant = other
        | none, none => left = right
        | _, _ => false)
  | .timestamp left, .timestamp right =>
      some (match left.instant?, right.instant? with
        | some instant, some other => instant = other
        | none, none => left = right
        | _, _ => false)
  | _, _ => none

/-- Numbers are compared by what they are worth, words by their letters, times
by their instants, and all else by its form. -/
def sameSingle (left right : Value) : Bool :=
  match left.worth?, right.worth?, left.letters?, right.letters? with
  | some worth, some other, _, _ => worth.same other
  | none, none, some letters, some other => letters = other
  | none, none, none, none =>
      (sameTime left right).getD (left.display = right.display)
  | _, _, _, _ => false

mutual

def sameKey : Value → Value → Bool
  | .tuple items, .tuple others => sameKeys items others
  | left, right => sameSingle left right

def sameKeys : List Value → List Value → Bool
  | [], [] => true
  | left :: lefts, right :: rights =>
      sameKey left right && sameKeys lefts rights
  | _, _ => false

end

def mappingOf (pairs : List (Value × Value)) : Value :=
  .mapping (Entries.ofPairs sameKey pairs)

end StructuredCql.Value
