import StructuredCql.Statement.Row

/-!
# Jobs and requests

A job is whatever a statement can be made from: a query with an operation, or
the row of an insertion, a change or a deletion.  A request is a job, or a
query that has still to be read, from a value or from a plan in JSON.
-/

namespace StructuredCql

inductive Job where
  | query (query : Query) (operation : Value) (options : Options)
  | insert (keyspace table : Value) (fields generated : Row)
      (options : Options)
  | update (keyspace table : Value) (fields filters : Row) (options : Options)
  | delete (keyspace table : Value) (filters : Row) (options : Options)

def Job.compile : Job → Except Failure Statement
  | .query asked operation options =>
      orRefuse (asked.compile operation options)
  | .insert keyspace table fields generated options =>
      insertRow keyspace table fields generated options
  | .update keyspace table fields filters options =>
      updateRow keyspace table fields filters options
  | .delete keyspace table filters options =>
      deleteRow keyspace table filters options

def Query.ofPlan (plan : String) : Except Failure Query :=
  match Json.read plan.toList with
  | .error (.malformed fault left) => .error (.malformedPlan plan fault left)
  | .error (.oversizedInteger digits) => .error (.oversizedInteger digits)
  | .ok value =>
      match Query.ofValue value with
      | .ok query => .ok query
      | .error issues => .error (.invalidPlan plan issues)

def compilePlan (plan : String) (operation : Value) (options : Options) :
    Except Failure Statement := do
  let query ← Query.ofPlan plan
  orRefuse (query.compile operation options)

def compileQuery (query operation : Value) (options : Options) :
    Except Failure Statement := do
  let query ← (Query.ofValue query).orFail .query
  orRefuse (query.compile operation options)

inductive Request where
  | plan (text : String) (operation : Value) (options : Options)
  | query (query operation : Value) (options : Options)
  | job (job : Job)

def Request.compile : Request → Except Failure Statement
  | .plan text operation options => compilePlan text operation options
  | .query value operation options => compileQuery value operation options
  | .job known => known.compile

end StructuredCql
