import StructuredCql.ErrorReport
import StructuredCql.Json.Reader

/-!
# Failures

The ways in which a request can end without a statement: its plan is no JSON
or no query, a record of the request does not read, or the query is refused.
-/

namespace StructuredCql

inductive Failure where
  | malformedPlan (plan : String) (fault : Json.Fault) (left : Nat)
  | oversizedInteger (digits : Nat)
  | invalidPlan (plan : String) (issues : List Issue)
  | invalid (shape : Shape) (issues : List Issue)
  | refused (cause : CompileError)

namespace Failure

def oversized (digits : String) : String :=
  "Exceeds the limit (" ++ toString Whole.longest ++
    " digits) for integer string conversion" ++ digits ++
    "; use sys.set_int_max_str_digits() to increase the limit"

def message : Failure → String
  | .malformedPlan plan fault left =>
      "Invalid JSON: " ++ fault.messageAt plan.toList left
  | .oversizedInteger digits =>
      oversized (": value has " ++ toString digits ++ " digits")
  | .invalidPlan _ _ =>
      "CqlQuery structure is invalid: " ++ CompileError.issuesMark
  | .invalid _ _ => ""
  | .refused cause =>
      match cause.report? with
      | some report => report.message
      | none => oversized ""

def errorClass : Failure → ErrorClass
  | .malformedPlan _ _ _ | .invalidPlan _ _ => .parse
  | .oversizedInteger _ => .value
  | .invalid _ _ => .validation
  | .refused cause =>
      match cause.report? with
      | some report => .compilation report.category
      | none => .value

def issues? : Failure → Option (Shape × List Issue)
  | .invalidPlan _ issues => some (.query, issues)
  | .invalid shape issues => some (shape, issues)
  | .refused cause => cause.report?.bind fun _ => cause.issues?
  | _ => none

end Failure

def Reading.orFail (shape : Shape) : Reading α → Except Failure α
  | .ok result => .ok result
  | .error issues => .error (.invalid shape issues)

def orRefuse : Except CompileError α → Except Failure α
  | .ok result => .ok result
  | .error cause => .error (.refused cause)

end StructuredCql
