import StructuredCql.CompileError
import StructuredCql.Number.Shortest
import StructuredCql.Number.Whole
import StructuredCql.Text.Verbatim
import StructuredCql.Value.Display

/-!
# Constants and names

Values that are written into a statement, and the names of columns, types and
tables.  Both are the only texts of a caller that reach a statement directly.
-/

namespace StructuredCql

open StructuredCql.Text

def doubleApostrophes : List Char → List Char
  | [] => []
  | '\'' :: rest => '\'' :: '\'' :: doubleApostrophes rest
  | character :: rest => character :: doubleApostrophes rest

def quotedConstant (text : String) : String :=
  "'" ++ String.ofList (doubleApostrophes text.toList) ++ "'"

def Binary64.constant : Binary64 → String
  | .notANumber => "NaN"
  | .infinite negative => if negative then "-Infinity" else "Infinity"
  | .finite negative index => Binary64.text (.finite negative index)

/-- The constant for a value.  Moments are cut to milliseconds. -/
def Value.constant : Value → Except CompileError String
  | .null => .error .nullLiteral
  | .bool value => .ok (if value then "TRUE" else "FALSE")
  | .int value =>
      if Whole.isWritable value then .ok (toString value)
      else .error .unwritableNumber
  | .float value => .ok value.constant
  | .decimal value => .ok value.text
  | .text value => .ok (quotedConstant value)
  | .word value => .ok (quotedConstant value.name)
  | .uuid value => .ok value.text
  | .bytes value | .byteArray value => .ok ("0x" ++ hexBytes value)
  | .date value => .ok (quotedConstant value.text)
  | .time value => .ok (quotedConstant value.text)
  | .timestamp value => .ok (quotedConstant value.millisecondText)
  | value => .error (.noLiteralForm value)

theorem Value.constant_int_eq_ok {number : Int} {text : String} :
    (Value.int number).constant = .ok text ↔
      Whole.isWritable number ∧ toString number = text := by
  rw [constant]
  split <;> simp [*]

theorem Value.constant_int_eq_error {number : Int} {cause : CompileError} :
    (Value.int number).constant = .error cause ↔
      Whole.isWritable number = false ∧ cause = .unwritableNumber := by
  rw [constant]
  split <;> simp [*, eq_comm]

def checkedName (role : NameRole) (name : String) :
    Except CompileError String :=
  if isIdentifier name.toList then .ok name else .error (.badName name role)

/-- A column may be qualified by the name that its table goes by; a statement
addresses one table only, so the qualifier is checked and left out. -/
def columnName (name : String) : Except CompileError String :=
  match name.toList.dropWhile (· != '.') with
  | [] => checkedName .identifier name
  | _ :: column => do
      let _ ← checkedName .identifier
        (String.ofList (name.toList.takeWhile (· != '.')))
      checkedName .identifier (String.ofList column)

def Source.tableName (source : Source) : Except CompileError String :=
  match source.keyspace with
  | none | some "" => checkedName .tableName source.table
  | some keyspace => do
      let keyspace ← checkedName .tableName keyspace
      let table ← checkedName .tableName source.table
      pure (keyspace ++ "." ++ table)

def blobFunction (typeName : String) : Except CompileError String :=
  (checkedName .identifier typeName).map (· ++ "AsBlob")

/-! ## Values as names

Names may come as values of any kind.  Texts and the words of closed sets can
be names; a value of another kind is refused by its plain form.
-/

namespace Value

def checkedName (role : NameRole) (value : Value) :
    Except CompileError String :=
  match value.letters? with
  | some name =>
      if Text.isIdentifier name.toList then .ok name
      else .error (.badName value.plainText role)
  | none => .error (.noName value role)

def identifier (value : Value) : Except CompileError String :=
  value.checkedName .identifier

def blobFunction (value : Value) : Except CompileError String := do
  let _ ← value.identifier
  pure (value.plainText ++ "AsBlob")

/-- Nothing, zero, and whatever has no parts. -/
def isVoid : Value → Bool
  | .null => true
  | .text value => value.isEmpty
  | .bytes value | .byteArray value => value.isEmpty
  | .list items | .tuple items => items.isEmpty
  | .mapping entries => entries.isEmpty
  | .bool value => !value
  | .int value => value = 0
  | .float (.finite _ index) => index.val = 0
  | .decimal (.finite numeral) => numeral.coefficient = 0
  | _ => false

def tableName (keyspace table : Value) : Except CompileError String :=
  if keyspace.isVoid then table.checkedName .tableName
  else do
    let keyspace ← keyspace.checkedName .tableName
    let table ← table.checkedName .tableName
    pure (keyspace ++ "." ++ table)

end Value

end StructuredCql
