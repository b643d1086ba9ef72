import StructuredCql.Calendar
import StructuredCql.Number.Binary64
import StructuredCql.Number.Decimal
import StructuredCql.Vocabulary

/-!
# Values and expressions

A value is what a plan, a row or an option holds: data of many kinds, among
them parts of a query that have been read before.  An expression is a part of
a query; its leaves hold values again, and the arguments of a fragment stay
values until the fragment is rendered.  So both types are defined together.
-/

namespace StructuredCql

/-! ## Universally unique identifiers

A number of 128 bits, written as five groups of lower-case digits.
-/

structure Uuid where
  bits : BitVec 128
deriving DecidableEq, Repr

namespace Uuid

open StructuredCql.Text

def text (uuid : Uuid) : String :=
  let number := uuid.bits.toNat
  paddedHex 8 (number >>> 96) ++ "-" ++
    paddedHex 4 (number >>> 80 % 0x10000) ++ "-" ++
    paddedHex 4 (number >>> 64 % 0x10000) ++ "-" ++
    paddedHex 4 (number >>> 48 % 0x10000) ++ "-" ++
    paddedHex 12 (number % 0x1000000000000)

/-- Thirty-two digits in either case; hyphens and braces do not count. -/
def ofText? (text : List Char) : Option Uuid := do
  let digits ← (text.filter fun character =>
    character != '-' && character != '\x7b' && character != '\x7d').mapM
      hexDigitValue?
  if digits.length = 32 then
    pure ⟨BitVec.ofNat 128
      (digits.foldl (fun value digit => 16 * value + digit) 0)⟩
  else
    none

end Uuid

/-! ## Values -/

structure Source where
  table : String
  keyspace : Option String
deriving DecidableEq, Repr

mutual

inductive Value where
  | null
  | bool (value : Bool)
  | int (value : Int)
  | float (value : Binary64)
  | decimal (value : Decimal)
  | text (value : String)
  | uuid (value : Uuid)
  | bytes (value : List UInt8)
  | byteArray (value : List UInt8)
  | date (value : Date)
  | time (value : TimeOfDay)
  | timestamp (value : Timestamp)
  | now
  | word (value : Word)
  | list (items : List Value)
  | tuple (items : List Value)
  | mapping (entries : List (Value × Value))
  | expr (value : Expr)
  | assignment (value : Assignment)
  | source (value : Source)
  | orderItem (operand : Expr) (direction : Direction)
  | limit (count : Nat)

inductive Expr where
  | column (name : String)
  | literal (value : Value)
  | param (value : Value)
  | call (function : CqlFunction) (args : List Expr)
  | cast (operand : Expr) (typeName : String)
  | blob (operand : Expr) (typeName : String)
  | fragment (template : String) (args : List Value)
  | keywords (entries : List (String × Value)) (args : List Value)
  | compare (comparison : Comparison) (left right : Expr)
  | and (first : Expr) (rest : List Expr)
  | or (first : Expr) (rest : List Expr)
  | not (operand : Expr)
  | membership (operand : Expr) (values : List Expr)
  | nullCheck (operand : Expr) (negated : Bool)

inductive Assignment where
  | set (column : String) (value : Expr)
  | increment (column : String) (amount : Expr)

end

instance : Inhabited Value := ⟨.null⟩

namespace Value

def letters? : Value → Option String
  | .text value => some value
  | .word value => some value.name
  | _ => none

def items? : Value → Option (List Value)
  | .list items | .tuple items => some items
  | _ => none

end Value

/-! ## Entries

The entries of a mapping are a finite map that keeps its order.  A key that
comes again keeps its first place and takes the last value.
-/

namespace Entries

def put (same : κ → κ → Bool) (key : κ) (value : α) :
    List (κ × α) → List (κ × α)
  | [] => [(key, value)]
  | (present, old) :: rest =>
      if same present key then (present, value) :: rest
      else (present, old) :: put same key value rest

def ofPairs (same : κ → κ → Bool) (pairs : List (κ × α)) : List (κ × α) :=
  pairs.foldl (fun entries pair => put same pair.1 pair.2 entries) []

end Entries

end StructuredCql
