/-!
# Vocabulary

The dialect of all statements, and the closed sets of words of queries and
statements: comparison operators, functions, kinds of generated keys,
operations, sort directions and guards, each with its spelling in a plan and,
where it has one, in a statement.
-/

namespace StructuredCql

def dialectName : String := "cassandra"

inductive Comparison where
  | equal
  | notEqual
  | greater
  | greaterOrEqual
  | less
  | lessOrEqual
deriving DecidableEq, Repr

namespace Comparison

def all : List Comparison :=
  [.equal, .notEqual, .greater, .greaterOrEqual, .less, .lessOrEqual]

def name : Comparison → String
  | .equal => "EQ"
  | .notEqual => "NE"
  | .greater => "GT"
  | .greaterOrEqual => "GTE"
  | .less => "LT"
  | .lessOrEqual => "LTE"

def symbol : Comparison → String
  | .equal => "="
  | .notEqual => "!="
  | .greater => ">"
  | .greaterOrEqual => ">="
  | .less => "<"
  | .lessOrEqual => "<="

def ofName? (name : String) : Option Comparison :=
  all.find? fun comparison => comparison.name = name

def spellings : List (String × Comparison) :=
  ("==", .equal) :: all.map (fun comparison => (comparison.symbol, comparison))
    ++ all.map fun comparison => (comparison.name, comparison)

def ofSpelling? (spelling : String) : Option Comparison :=
  spellings.lookup spelling

end Comparison

def nullCheckSpellings : List (String × Bool) :=
  [("IS_NULL", false), ("IS_NOT_NULL", true)]

inductive CqlFunction where
  | count
  | token
  | uuid
  | now
  | minTimeuuid
  | maxTimeuuid
  | toDate
  | toTimestamp
  | toUnixTimestamp
deriving DecidableEq, Repr

namespace CqlFunction

def all : List CqlFunction :=
  [.count, .token, .uuid, .now, .minTimeuuid, .maxTimeuuid, .toDate,
    .toTimestamp, .toUnixTimestamp]

def planName : CqlFunction → String
  | .count => "count"
  | .token => "token"
  | .uuid => "uuid"
  | .now => "now"
  | .minTimeuuid => "min_timeuuid"
  | .maxTimeuuid => "max_timeuuid"
  | .toDate => "to_date"
  | .toTimestamp => "to_timestamp"
  | .toUnixTimestamp => "to_unix_timestamp"

def name : CqlFunction → String
  | .count => "count"
  | .token => "token"
  | .uuid => "uuid"
  | .now => "now"
  | .minTimeuuid => "minTimeuuid"
  | .maxTimeuuid => "maxTimeuuid"
  | .toDate => "toDate"
  | .toTimestamp => "toTimestamp"
  | .toUnixTimestamp => "toUnixTimestamp"

def ofPlanName? (name : String) : Option CqlFunction :=
  all.find? fun function => function.planName = name

end CqlFunction

/-- How the cluster generates a key that the row does not supply. -/
inductive KeyKind where
  | binaryId
  | id
deriving DecidableEq, Repr

namespace KeyKind

def all : List KeyKind := [.binaryId, .id]

def name : KeyKind → String
  | .binaryId => "binary_id"
  | .id => "id"

def ofName? (name : String) : Option KeyKind :=
  all.find? fun kind => kind.name = name

def generator : KeyKind → CqlFunction
  | .binaryId => .now
  | .id => .uuid

end KeyKind

inductive Operation where
  | all
  | updateAll
  | deleteAll
  | insert
  | update
  | delete
deriving DecidableEq, Repr

namespace Operation

def each : List Operation :=
  [.all, .updateAll, .deleteAll, .insert, .update, .delete]

def name : Operation → String
  | .all => "all"
  | .updateAll => "update_all"
  | .deleteAll => "delete_all"
  | .insert => "insert"
  | .update => "update"
  | .delete => "delete"

/-- An operation by its name; reading has a second one. -/
def ofName? (name : String) : Option Operation :=
  if name = "select" then some .all
  else each.find? fun operation => operation.name = name

def takesQuery : Operation → Bool
  | .all | .updateAll | .deleteAll => true
  | .insert | .update | .delete => false

end Operation

def Operation.ofQueries : List Operation :=
  Operation.each.filter Operation.takesQuery

/-- A word of one of the closed sets that data may hold words of. -/
inductive Word where
  | operation (value : Operation)
  | keyKind (value : KeyKind)
  | function (value : CqlFunction)
  | comparison (value : Comparison)
deriving DecidableEq, Repr

namespace Word

def family : Word → String
  | .operation _ => "Operation"
  | .keyKind _ => "KeyKind"
  | .function _ => "CqlFunction"
  | .comparison _ => "ComparisonOp"

def name : Word → String
  | .operation value => value.name
  | .keyKind value => value.name
  | .function value => value.planName
  | .comparison value => value.name

end Word

inductive Direction where
  | ascending
  | descending
deriving DecidableEq, Repr

namespace Direction

def name : Direction → String
  | .ascending => "ASC"
  | .descending => "DESC"

def ofName? (name : String) : Option Direction :=
  [ascending, descending].find? fun direction => direction.name = name

end Direction

/-- The condition on the existence of a row that a statement may carry. -/
inductive Guard where
  | exists
  | notExists
deriving DecidableEq, Repr

namespace Guard

def name : Guard → String
  | .exists => "exists"
  | .notExists => "not_exists"

def ofName? (name : String) : Option Guard :=
  [Guard.exists, Guard.notExists].find? fun guard => guard.name = name

def clause : Guard → String
  | .exists => "IF EXISTS"
  | .notExists => "IF NOT EXISTS"

def appliesTo : Guard → Operation → Bool
  | .exists, .updateAll | .exists, .deleteAll => true
  | .exists, .update | .exists, .delete => true
  | .notExists, .insert => true
  | _, _ => false

end Guard

end StructuredCql
