import StructuredCql.Expr.Reading
import StructuredCql.Query

/-!
# Reading queries

The records of a query: its source, ordering items, limit and assignments, and
the query itself.  Parts that have been read before are taken as they are.
-/

namespace StructuredCql

/-- The kinds of records and unions that a reading can be asked for, by the
names that its issues are reported under. -/
inductive Shape where
  | query
  | options
  | source
  | orderItem
  | limit
  | setAssignment
  | incrementAssignment
  | operand
  | column
deriving DecidableEq, Repr

def Shape.name : Shape → String
  | .query => "CqlQuery"
  | .options => "CompileOptions"
  | .source => "Source"
  | .orderItem => "OrderByItem"
  | .limit => "LimitClause"
  | .setAssignment => "SetAssignment"
  | .incrementAssignment => "IncAssignment"
  | .operand => "Operand"
  | .column => "ColumnOperand"

namespace Value

def readList (read : Value → Reading α) (value : Value) : Reading (List α) :=
  match value.elements? with
  | some elements => Reading.items 0 (elements.map read)
  | none => .fail .listType

def readOptional (read : Value → Reading α) : Value → Reading (Option α)
  | .null => .ok none
  | value => (read value).map some

end Value

def Source.ofValue : Value → Reading Source
  | .source place => .ok place
  | .mapping entries =>
      (Record.read entries ["table", "prefix"] <|
        (Record.required entries "table" Value.readText).both <|
        Record.optional entries "prefix" none Value.readOptionalText).map
          fun fields => ⟨fields.1, fields.2⟩
  | _ => .fail .modelType

def Source.ofParts (keyspace table : Value) : Reading Source :=
  Source.ofValue (.mapping
    [(.text "table", table), (.text "prefix", keyspace)])

def OrderItem.ofValue : Value → Reading OrderItem
  | .orderItem operand direction => .ok ⟨operand, direction⟩
  | .mapping entries =>
      (Record.read entries ["expr", "direction"] <|
        (Record.required entries "expr" Expr.ofValue).both <|
        Record.optional entries "direction" Direction.ascending
          (Value.readLiteral Direction.ofName?)).map
          fun fields => ⟨fields.1, fields.2⟩
  | _ => .fail .modelType

def readLimit : Value → Reading Nat
  | .limit count => .ok count
  | .mapping entries =>
      Record.read entries ["value"] <|
        Record.required entries "value" Value.readCount
  | _ => .fail .modelType

namespace Assignment

def ofEntries (entries : List (Value × Value))
    (columnName valueName : String) (make : String → Expr → Assignment) :
    Reading Assignment :=
  (Record.read entries [columnName, valueName] <|
    (Record.required entries columnName Value.readText).both <|
    Record.required entries valueName Expr.ofValue).map
      fun fields => make fields.1 fields.2

def setOfValue : Value → Reading Assignment
  | .assignment (.set column value) => .ok (.set column value)
  | .mapping entries => ofEntries entries "set" "to" .set
  | _ => .fail .modelType

def incrementOfValue : Value → Reading Assignment
  | .assignment (.increment column amount) => .ok (.increment column amount)
  | .mapping entries => ofEntries entries "inc" "by" .increment
  | _ => .fail .modelType

end Assignment

inductive AssignmentKind where
  | set
  | increment
deriving DecidableEq, Repr

namespace AssignmentKind

def tag : AssignmentKind → String
  | .set => "set"
  | .increment => "inc"

def announcements : List (String × AssignmentKind) :=
  [("set", .set), ("inc", .increment)]

def read : AssignmentKind → Value → Reading Assignment
  | .set => Assignment.setOfValue
  | .increment => Assignment.incrementOfValue

end AssignmentKind

def Assignment.ofValue : Value → Reading Assignment
  | .assignment change => .ok change
  | .mapping entries =>
      match Record.announced? AssignmentKind.announcements entries with
      | none => .fail .unionTagNotFound
      | some kind => (kind.read (.mapping entries)).under (.key kind.tag)
  | _ => .fail .unionTagNotFound

def positionalGroup : Value → Value
  | .int position => .mapping [(.text "value", .int position)]
  | item => item

/-- Only in a list of groups are whole numbers looked for. -/
def positionalGroups : Value → Value
  | .list items => .list (items.map positionalGroup)
  | value => value

def Query.fields : List String :=
  ["FROM", "SELECT", "WHERE", "GROUP_BY", "ORDER_BY", "LIMIT", "LOCK", "UPDATE"]

def Query.ofValue : Value → Reading Query
  | .mapping entries =>
      (Record.read entries Query.fields <|
        (Record.required entries "FROM" Source.ofValue).both <|
        (Record.optional entries "SELECT" []
          (Value.readList Expr.ofValue)).both <|
        (Record.optional entries "WHERE" none
          (Value.readOptional Expr.ofValue)).both <|
        (Record.optional entries "GROUP_BY" [] fun value =>
          (positionalGroups value).readList Expr.ofValue).both <|
        (Record.optional entries "ORDER_BY" []
          (Value.readList OrderItem.ofValue)).both <|
        (Record.optional entries "LIMIT" none
          (Value.readOptional readLimit)).both <|
        (Record.optional entries "LOCK" none Value.readOptionalText).both <|
        Record.optional entries "UPDATE" []
          (Value.readList Assignment.ofValue)).map
        fun (source, selection, filter, grouping, ordering, limit, hint,
            assignments) =>
          { source, selection, filter, grouping, ordering, limit, hint,
            assignments }
  | _ => .fail .modelType

/-- The guard that options ask for; all their other entries are let be. -/
def Guard.ofEntries (entries : List (Value × Value)) :
    Reading (Option Guard) :=
  Record.optional entries "if" none
    (Value.readOptional (Value.readLiteral Guard.ofName?))

def Guard.ofOptions : Value → Reading (Option Guard)
  | .mapping entries => Guard.ofEntries entries
  | _ => .fail .modelType

end StructuredCql
