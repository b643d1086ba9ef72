import StructuredCql.Reading.Record
import StructuredCql.Value
import StructuredCql.Value.Fields

/-!
# Reading expressions

A mapping is read as the kind of expression that its keys announce.  Each kind
has a reader of its own, which takes the entries of the mapping together with
what their values read as; so no reader calls another one, and the recursion
is over the value alone.
-/

namespace StructuredCql

/-- A value, its reading as an expression and, for a list, the readings of its
items. -/
structure Part where
  value : Value
  operand : Reading Expr
  items : Option (List (Reading Expr))

namespace Part

/-- Where a list is asked for: the fields of a record are pairs, and no pair
is an expression. -/
def elements (part : Part) : Option (List (Reading Expr)) :=
  part.items.or (part.value.fields?.map fun fields =>
    fields.map fun _ => .fail .unionTagNotFound)

def operands (part : Part) : Reading (List Expr) :=
  match part.elements with
  | some items => Reading.items 0 items
  | none => .fail .listType

def someOperands (part : Part) : Reading (Expr × List Expr) :=
  match part.elements with
  | some (first :: rest) =>
      (first.under (.position 0)).both (Reading.items 1 rest)
  | some [] => .fail .tooShort
  | none => .fail .listType

def text (part : Part) : Reading String := part.value.readText

def arguments (part : Part) : Reading (List Value) :=
  match part.value.elements? with
  | some elements => .ok elements
  | none => .fail .listType

def keywordIssues (entries : List (Value × Value)) : List Issue :=
  entries.flatMap fun entry =>
    match entry.1.readText with
    | .ok _ => []
    | .error issues =>
        issues.map fun issue =>
          ⟨issue.kind, [.key "dict[str,any]", entry.1.step, .key "[key]"]⟩

def keywords (entries : List (Value × Value)) : List (String × Value) :=
  Entries.ofPairs (· = ·) <| entries.filterMap fun entry =>
    match entry.1.readText with
    | .ok key => some (key, entry.2)
    | .error _ => none

def template (part : Part) : Reading (String ⊕ List (String × Value)) :=
  match part.value.readText with
  | .ok text => .ok (.inl text)
  | .error issues =>
      let textIssues := issues.map fun issue => ⟨issue.kind, [.key "str"]⟩
      match part.value with
      | .mapping entries =>
          match keywordIssues entries with
          | [] => .ok (.inr (keywords entries))
          | keyIssues => .error (textIssues ++ keyIssues)
      | _ =>
          .error (textIssues ++ [⟨.mappingType, [.key "dict[str,any]"]⟩])

end Part

inductive NodeKind where
  | column
  | literal
  | param
  | call
  | cast
  | blob
  | fragment
  | compare
  | and
  | or
  | not
  | membership
  | nullCheck
deriving DecidableEq, Repr

namespace NodeKind

def tag : NodeKind → String
  | .column => "col"
  | .literal => "value"
  | .param => "param"
  | .call => "func"
  | .cast => "cast"
  | .blob => "as_blob"
  | .fragment => "fragment"
  | .compare => "cmp"
  | .and => "AND"
  | .or => "OR"
  | .not => "NOT"
  | .membership => "IN"
  | .nullCheck => "null"

def announcements : List (String × NodeKind) :=
  [("col", .column), ("value", .literal), ("param", .param), ("func", .call),
    ("cast", .cast), ("as_blob", .blob), ("fragment", .fragment),
    ("AND", .and), ("OR", .or), ("NOT", .not), ("IN", .membership),
    ("operand", .nullCheck), ("op", .compare)] ++
    nullCheckSpellings.map (fun spelling => (spelling.1, .nullCheck)) ++
    Comparison.spellings.map fun spelling => (spelling.1, .compare)

def ofEntries? (entries : List (Value × α)) : Option NodeKind :=
  Record.announced? announcements entries

def readCall (entries : List (Value × Part)) : Reading Expr :=
  (Record.read entries ["func", "args"] <|
    (Record.required entries "func" fun part =>
      part.value.readMember CqlFunction.ofPlanName?).both <|
    Record.optional entries "args" [] Part.operands).map
      fun fields => .call fields.1 fields.2

def readConversion (entries : List (Value × Part)) (name : String)
    (make : Expr → String → Expr) : Reading Expr :=
  (Record.read entries [name, "type"] <|
    (Record.required entries name Part.operand).both <|
    Record.required entries "type" Part.text).map
      fun fields => make fields.1 fields.2

def readFragment (entries : List (Value × Part)) : Reading Expr :=
  (Record.read entries ["fragment", "args"] <|
    (Record.required entries "fragment" Part.template).both <|
    Record.optional entries "args" [] Part.arguments).map
      fun fields => match fields.1 with
        | .inl text => .fragment text fields.2
        | .inr entries => .keywords entries fields.2

def readJunction (entries : List (Value × Part)) (name : String)
    (make : Expr → List Expr → Expr) : Reading Expr :=
  (Record.read entries [name] <|
    Record.required entries name Part.someOperands).map
      fun items => make items.1 items.2

def comparisonOf? (key : Value) : Option Comparison :=
  key.letters?.bind Comparison.ofSpelling?

def negationOf? (key : Value) : Option Bool :=
  key.letters?.bind fun letters => nullCheckSpellings.lookup letters

def readSpelled (key : Value) (comparison : Comparison) (part : Part) :
    Reading Expr :=
  match part.items with
  | some [left, right] =>
      ((left.under (.key "left")).both (right.under (.key "right"))).map
        fun sides => .compare comparison sides.1 sides.2
  | _ => .fail (.comparisonArity key.plainText)

def readNamedComparison (entries : List (Value × Part)) :
    Reading Expr :=
  (Record.read entries ["op", "left", "right"] <|
    (Record.required entries "op" fun part =>
      part.value.readMember Comparison.ofName?).both <|
    (Record.required entries "left" Part.operand).both <|
    Record.required entries "right" Part.operand).map
      fun fields => .compare fields.1 fields.2.1 fields.2.2

def readComparison : List (Value × Part) → Reading Expr
  | [(key, part)] =>
      match comparisonOf? key with
      | some comparison => readSpelled key comparison part
      | none => readNamedComparison [(key, part)]
  | entries => readNamedComparison entries

def readNamedNullCheck (entries : List (Value × Part)) :
    Reading Expr :=
  (Record.read entries ["operand", "negated"] <|
    (Record.required entries "operand" Part.operand).both <|
    Record.optional entries "negated" false fun part =>
      part.value.readBool).map
      fun fields => .nullCheck fields.1 fields.2

def readNullCheck : List (Value × Part) → Reading Expr
  | [(key, part)] =>
      match negationOf? key with
      | some negated =>
          (part.operand.under (.key "operand")).map
            fun operand => .nullCheck operand negated
      | none => readNamedNullCheck [(key, part)]
  | entries => readNamedNullCheck entries

theorem readComparison_eq_or (entries : List (Value × Part)) :
    readComparison entries = readNamedComparison entries ∨
      ∃ key part comparison, entries = [(key, part)] ∧
        comparisonOf? key = some comparison ∧
        readComparison entries = readSpelled key comparison part := by
  unfold readComparison
  split
  · split
    · next found => exact .inr ⟨_, _, _, rfl, found, rfl⟩
    · exact .inl rfl
  · exact .inl rfl

theorem readNullCheck_eq_or (entries : List (Value × Part)) :
    readNullCheck entries = readNamedNullCheck entries ∨
      ∃ key part negated, entries = [(key, part)] ∧
        negationOf? key = some negated ∧
        readNullCheck entries = (part.operand.under (.key "operand")).map
          fun operand => .nullCheck operand negated := by
  unfold readNullCheck
  split
  · split
    · next found => exact .inr ⟨_, _, _, rfl, found, rfl⟩
    · exact .inl rfl
  · exact .inl rfl

def read (entries : List (Value × Part)) : NodeKind → Reading Expr
  | .column =>
      (Record.read entries ["col"] <|
        Record.required entries "col" Part.text).map .column
  | .literal =>
      (Record.read entries ["value"] <|
        Record.required entries "value" fun part => .ok part.value).map .literal
  | .param =>
      (Record.read entries ["param"] <|
        Record.required entries "param" fun part => .ok part.value).map .param
  | .call => readCall entries
  | .cast => readConversion entries "cast" .cast
  | .blob => readConversion entries "as_blob" .blob
  | .fragment => readFragment entries
  | .compare => readComparison entries
  | .and => readJunction entries "AND" .and
  | .or => readJunction entries "OR" .or
  | .not =>
      (Record.read entries ["NOT"] <|
        Record.required entries "NOT" Part.operand).map .not
  | .membership => readJunction entries "IN" .membership
  | .nullCheck => readNullCheck entries

end NodeKind

def Expr.ofParts (entries : List (Value × Part)) : Reading Expr :=
  match NodeKind.ofEntries? entries with
  | none => .fail .unionTagNotFound
  | some kind => (kind.read entries).under (.key kind.tag)

mutual

/-- An expression that has been read before is taken as it is. -/
def Expr.ofValue : Value → Reading Expr
  | .expr operand => .ok operand
  | .mapping entries => Expr.ofParts (Part.ofEntries entries)
  | _ => .fail .unionTagNotFound

def Part.ofEntries : List (Value × Value) → List (Value × Part)
  | [] => []
  | (key, value) :: rest =>
      (key, ⟨value, Expr.ofValue value, Part.itemsOf value⟩) ::
        Part.ofEntries rest

def Part.itemsOf : Value → Option (List (Reading Expr))
  | .list items | .tuple items => some (Expr.ofValues items)
  | _ => none

def Expr.ofValues : List Value → List (Reading Expr)
  | [] => []
  | value :: rest => Expr.ofValue value :: Expr.ofValues rest

end

def Part.of (value : Value) : Part :=
  ⟨value, Expr.ofValue value, Part.itemsOf value⟩

theorem Part.ofEntries_eq_map (entries : List (Value × Value)) :
    Part.ofEntries entries = entries.map fun entry =>
      (entry.1, ⟨entry.2, Expr.ofValue entry.2, Part.itemsOf entry.2⟩) := by
  induction entries with
  | nil => simp [Part.ofEntries]
  | cons entry rest ih =>
      obtain ⟨key, value⟩ := entry
      simp [Part.ofEntries, ih]

theorem Expr.ofValues_eq_map (values : List Value) :
    Expr.ofValues values = values.map Expr.ofValue := by
  induction values with
  | nil => simp [Expr.ofValues]
  | cons value rest ih => simp [Expr.ofValues, ih]

theorem Part.find?_ofEntries (name : String) (entries : List (Value × Value)) :
    Record.find? name (Part.ofEntries entries) =
      (Record.find? name entries).map Part.of := by
  rw [Part.ofEntries_eq_map]
  induction entries with
  | nil => simp [Record.find?]
  | cons entry rest ih =>
      obtain ⟨key, value⟩ := entry
      simp only [List.map_cons, Record.find?]
      split
      · rfl
      · exact ih

end StructuredCql
