import StructuredCql.Number.Whole
import StructuredCql.Value

/-!
# Values that can be written

A value has a written form only if all whole numbers inside it have one.
-/

namespace StructuredCql

mutual

def Value.isWritable : Value → Bool
  | .int value => Whole.isWritable value
  | .limit count => Whole.isWritable count
  | .list items | .tuple items => Value.areWritable items
  | .mapping entries => Value.entriesAreWritable entries
  | .expr operand => operand.isWritable
  | .assignment change => change.isWritable
  | .orderItem operand _ => operand.isWritable
  | _ => true

def Value.areWritable : List Value → Bool
  | [] => true
  | value :: rest => value.isWritable && Value.areWritable rest

def Value.entriesAreWritable : List (Value × Value) → Bool
  | [] => true
  | (key, value) :: rest =>
      key.isWritable && value.isWritable && Value.entriesAreWritable rest

def Value.keywordsAreWritable : List (String × Value) → Bool
  | [] => true
  | (_, value) :: rest => value.isWritable && Value.keywordsAreWritable rest

def Expr.isWritable : Expr → Bool
  | .column _ => true
  | .literal value | .param value => value.isWritable
  | .call _ args => Expr.areWritable args
  | .cast operand _ | .blob operand _ => operand.isWritable
  | .fragment _ args => Value.areWritable args
  | .keywords entries args =>
      Value.keywordsAreWritable entries && Value.areWritable args
  | .compare _ left right => left.isWritable && right.isWritable
  | .and first rest | .or first rest =>
      first.isWritable && Expr.areWritable rest
  | .not operand => operand.isWritable
  | .membership operand values =>
      operand.isWritable && Expr.areWritable values
  | .nullCheck operand _ => operand.isWritable

def Expr.areWritable : List Expr → Bool
  | [] => true
  | operand :: rest => operand.isWritable && Expr.areWritable rest

def Assignment.isWritable : Assignment → Bool
  | .set _ value => value.isWritable
  | .increment _ amount => amount.isWritable

end

end StructuredCql
