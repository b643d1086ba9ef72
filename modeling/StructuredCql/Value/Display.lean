import StructuredCql.Number.Shortest
import StructuredCql.Text.Basic
import StructuredCql.Text.Quoted
import StructuredCql.Value

/-!
# Values inside messages

Messages show a value in a form that tells its kind: texts are quoted, the
parts of a query carry the name of their kind and of their fields.  The same
forms stand in the details of an error.
-/

namespace StructuredCql

open StructuredCql.Text

def Expr.label : Expr → String
  | .column _ => "ColumnOperand"
  | .literal _ => "ValueOperand"
  | .param _ => "ParamOperand"
  | .call _ _ => "FuncOperand"
  | .cast _ _ => "CastOperand"
  | .blob _ _ => "BlobOperand"
  | .fragment _ _ | .keywords _ _ => "FragmentOperand"
  | .compare _ _ _ => "ComparisonPredicate"
  | .and _ _ => "AndPredicate"
  | .or _ _ => "OrPredicate"
  | .not _ => "NotPredicate"
  | .membership _ _ => "InPredicate"
  | .nullCheck _ _ => "NullCheckPredicate"

def Assignment.label : Assignment → String
  | .set _ _ => "SetAssignment"
  | .increment _ _ => "IncAssignment"

def Value.kindName : Value → String
  | .null => "NoneType"
  | .bool _ => "bool"
  | .int _ => "int"
  | .float _ => "float"
  | .decimal _ => "Decimal"
  | .text _ => "str"
  | .uuid _ => "UUID"
  | .bytes _ => "bytes"
  | .byteArray _ => "bytearray"
  | .date _ => "date"
  | .time _ => "time"
  | .timestamp _ => "datetime"
  | .now => "Autogenerate"
  | .word value => value.family
  | .list _ => "list"
  | .tuple _ => "tuple"
  | .mapping _ => "dict"
  | .expr operand => operand.label
  | .assignment change => change.label
  | .source _ => "Source"
  | .orderItem _ _ => "OrderByItem"
  | .limit _ => "LimitClause"

namespace Display

def wordName (word : Word) : String :=
  word.family ++ "." ++ word.name.toUpper

def wordDisplay (word : Word) : String :=
  "<" ++ wordName word ++ ": " ++ quoted word.name ++ ">"

def boolDisplay (value : Bool) : String :=
  if value then "True" else "False"

def optionalTextDisplay : Option String → String
  | none => "None"
  | some text => quoted text

/-- A whole day is taken back where the distance is negative, so that the
seconds and microseconds never are. -/
def offsetDisplay (offset : Int) : String :=
  if offset = 0 then "datetime.timezone.utc"
  else
    let rest := (offset % 86400000000).toNat
    let part (name : String) (count : Nat) : List String :=
      if count = 0 then [] else [name ++ "=" ++ toString count]
    let parts := (if offset < 0 then ["days=-1"] else []) ++
      part "seconds" (rest / 1000000) ++ part "microseconds" (rest % 1000000)
    "datetime.timezone(datetime.timedelta(" ++ joined ", " parts ++ "))"

def dateParts (date : Date) : List String :=
  [date.year, date.month, date.day].map toString

def timeParts (time : TimeOfDay) : List String :=
  let clock :=
    if time.microsecond ≠ 0 then
      [time.hour, time.minute, time.second, time.microsecond]
    else if time.second ≠ 0 then
      [time.hour, time.minute, time.second]
    else
      [time.hour, time.minute]
  let zone := match time.offset with
    | none => []
    | some offset => ["tzinfo=" ++ offsetDisplay offset]
  clock.map toString ++ zone

def applied (name : String) (parts : List String) : String :=
  name ++ "(" ++ joined ", " parts ++ ")"

def bracketed (parts : List String) : String :=
  "[" ++ joined ", " parts ++ "]"

def braced (parts : List String) : String :=
  "\x7b" ++ joined ", " parts ++ "\x7d"

def tupled : List String → String
  | [part] => "(" ++ part ++ ",)"
  | parts => "(" ++ joined ", " parts ++ ")"

def sourceFields (source : Source) : List String :=
  ["table=" ++ quoted source.table,
    "prefix=" ++ optionalTextDisplay source.keyspace]

end Display

open Display

mutual

def Value.display : Value → String
  | .null => "None"
  | .bool value => boolDisplay value
  | .int value => toString value
  | .float value => value.text
  | .decimal value => applied "Decimal" [quoted value.text]
  | .text value => quoted value
  | .uuid value => applied "UUID" [quoted value.text]
  | .bytes value => quotedBytes value
  | .byteArray value => applied "bytearray" [quotedByteArray value]
  | .date value => applied "datetime.date" (dateParts value)
  | .time value => applied "datetime.time" (timeParts value)
  | .timestamp value =>
      applied "datetime.datetime" (dateParts value.date ++ timeParts value.time)
  | .now => "NOW"
  | .word value => wordDisplay value
  | .list items => bracketed (Value.displayAll items)
  | .tuple items => tupled (Value.displayAll items)
  | .mapping entries => braced (Value.displayEntries entries)
  | .expr operand => applied operand.label operand.displayFields
  | .assignment change => applied change.label change.displayFields
  | .source place => applied "Source" (sourceFields place)
  | .orderItem operand direction =>
      applied "OrderByItem"
        ["expr=" ++ applied operand.label operand.displayFields,
          "direction=" ++ quoted direction.name]
  | .limit count => applied "LimitClause" ["value=" ++ toString count]

def Value.displayAll : List Value → List String
  | [] => []
  | item :: rest => item.display :: Value.displayAll rest

def Value.displayEntries : List (Value × Value) → List String
  | [] => []
  | (key, value) :: rest =>
      (key.display ++ ": " ++ value.display) :: Value.displayEntries rest

def Value.displayKeywords : List (String × Value) → List String
  | [] => []
  | (key, value) :: rest =>
      (quoted key ++ ": " ++ value.display) :: Value.displayKeywords rest

def Expr.displayFields : Expr → List String
  | .column name => ["col=" ++ quoted name]
  | .literal value => ["value=" ++ value.display]
  | .param value => ["param=" ++ value.display]
  | .call function args =>
      ["func=" ++ wordDisplay (.function function),
        "args=" ++ bracketed (Expr.displayAll args)]
  | .cast operand typeName =>
      ["cast=" ++ applied operand.label operand.displayFields,
        "type=" ++ quoted typeName]
  | .blob operand typeName =>
      ["as_blob=" ++ applied operand.label operand.displayFields,
        "type=" ++ quoted typeName]
  | .fragment template args =>
      ["fragment=" ++ quoted template,
        "args=" ++ bracketed (Value.displayAll args)]
  | .keywords entries args =>
      ["fragment=" ++ braced (Value.displayKeywords entries),
        "args=" ++ bracketed (Value.displayAll args)]
  | .compare comparison left right =>
      ["op=" ++ wordDisplay (.comparison comparison),
        "left=" ++ applied left.label left.displayFields,
        "right=" ++ applied right.label right.displayFields]
  | .and first rest =>
      ["AND=" ++ bracketed
        (applied first.label first.displayFields :: Expr.displayAll rest)]
  | .or first rest =>
      ["OR=" ++ bracketed
        (applied first.label first.displayFields :: Expr.displayAll rest)]
  | .not operand => ["NOT=" ++ applied operand.label operand.displayFields]
  | .membership operand values =>
      ["IN=" ++ bracketed
        (applied operand.label operand.displayFields :: Expr.displayAll values)]
  | .nullCheck operand negated =>
      ["operand=" ++ applied operand.label operand.displayFields,
        "negated=" ++ boolDisplay negated]

def Expr.displayAll : List Expr → List String
  | [] => []
  | operand :: rest =>
      applied operand.label operand.displayFields :: Expr.displayAll rest

def Assignment.displayFields : Assignment → List String
  | .set column value =>
      ["set=" ++ quoted column,
        "to=" ++ applied value.label value.displayFields]
  | .increment column amount =>
      ["inc=" ++ quoted column,
        "by=" ++ applied amount.label amount.displayFields]

end

/-- The plain form of a value: texts without quotes, numbers, dates and
identifiers as they are written, parts of a query by their fields alone. -/
def Value.plainText : Value → String
  | .decimal value => value.text
  | .text value => value
  | .uuid value => value.text
  | .date value => value.text
  | .time value => value.text
  | .timestamp value => value.date.text ++ " " ++ value.time.text
  | .now => "Autogenerate.NOW"
  | .word value => wordName value
  | .expr operand => joined " " operand.displayFields
  | .assignment change => joined " " change.displayFields
  | .source place => joined " " (sourceFields place)
  | .orderItem operand direction =>
      joined " "
        ["expr=" ++ applied operand.label operand.displayFields,
          "direction=" ++ quoted direction.name]
  | .limit count => "value=" ++ toString count
  | value => value.display

end StructuredCql
