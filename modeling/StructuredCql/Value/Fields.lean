import StructuredCql.Value

/-!
# The fields of records

The parts of a query are records: they have fields, each with a name and a
value, in an order of their own.  Where a list is asked for, a record stands
for the list of its fields, each as a pair of its name and its value.
-/

namespace StructuredCql

def Source.fields (source : Source) : List (String × Value) :=
  [("table", .text source.table),
    ("prefix", (source.keyspace.map Value.text).getD .null)]

def Expr.fields : Expr → List (String × Value)
  | .column name => [("col", .text name)]
  | .literal value => [("value", value)]
  | .param value => [("param", value)]
  | .call function args =>
      [("func", .word (.function function)), ("args", .list (args.map .expr))]
  | .cast operand typeName =>
      [("cast", .expr operand), ("type", .text typeName)]
  | .blob operand typeName =>
      [("as_blob", .expr operand), ("type", .text typeName)]
  | .fragment template args =>
      [("fragment", .text template), ("args", .list args)]
  | .keywords entries args =>
      [("fragment", .mapping (entries.map fun entry =>
          (.text entry.1, entry.2))),
        ("args", .list args)]
  | .compare comparison left right =>
      [("op", .word (.comparison comparison)), ("left", .expr left),
        ("right", .expr right)]
  | .and first rest => [("AND", .list ((first :: rest).map .expr))]
  | .or first rest => [("OR", .list ((first :: rest).map .expr))]
  | .not operand => [("NOT", .expr operand)]
  | .membership operand values =>
      [("IN", .list ((operand :: values).map .expr))]
  | .nullCheck operand negated =>
      [("operand", .expr operand), ("negated", .bool negated)]

def Assignment.fields : Assignment → List (String × Value)
  | .set column value => [("set", .text column), ("to", .expr value)]
  | .increment column amount =>
      [("inc", .text column), ("by", .expr amount)]

namespace Value

def fields? : Value → Option (List (String × Value))
  | .expr operand => some operand.fields
  | .assignment change => some change.fields
  | .source place => some place.fields
  | .orderItem operand direction =>
      some [("expr", .expr operand), ("direction", .text direction.name)]
  | .limit count => some [("value", .int count)]
  | _ => none

def elements? (value : Value) : Option (List Value) :=
  value.items?.or (value.fields?.map fun fields =>
    fields.map fun field => .tuple [.text field.1, field.2])

theorem fields?_ne_nil (value : Value) : value.fields? ≠ some [] := by
  cases value with
  | expr operand => cases operand <;> simp [fields?, Expr.fields]
  | assignment change => cases change <;> simp [fields?, Assignment.fields]
  | _ => simp [fields?, Source.fields]

end Value

end StructuredCql
