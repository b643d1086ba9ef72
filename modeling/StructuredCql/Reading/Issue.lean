/-!
# Issues

Reading a value either gives a result or lists everything that is wrong with
it.  An issue names what is wrong and the path from the top to the place.
Parts are read independently of each other, so their issues are all listed, in
the order of the parts.
-/

namespace StructuredCql

inductive IssueKind where
  | missing
  | extraForbidden
  | invalidKey
  | modelType
  | unionTagNotFound
  | stringType
  | stringUnicode
  | listType
  | mappingType
  | tooShort
  | unknownMember
  | unknownLiteral
  | integerType
  | integerParsing
  | integerParsingSize
  | integerFromFraction
  | finiteNumber
  | belowLeast
  | boolType
  | boolParsing
  | comparisonArity (spelling : String)
deriving DecidableEq, Repr

namespace IssueKind

def code : IssueKind → String
  | .missing => "missing"
  | .extraForbidden => "extra_forbidden"
  | .invalidKey => "invalid_key"
  | .modelType => "model_type"
  | .unionTagNotFound => "union_tag_not_found"
  | .stringType => "string_type"
  | .stringUnicode => "string_unicode"
  | .listType => "list_type"
  | .mappingType => "dict_type"
  | .tooShort => "too_short"
  | .unknownMember => "enum"
  | .unknownLiteral => "literal_error"
  | .integerType => "int_type"
  | .integerParsing => "int_parsing"
  | .integerParsingSize => "int_parsing_size"
  | .integerFromFraction => "int_from_float"
  | .finiteNumber => "finite_number"
  | .belowLeast => "greater_than_equal"
  | .boolType => "bool_type"
  | .boolParsing => "bool_parsing"
  | .comparisonArity _ => "value_error"

def message? : IssueKind → Option String
  | .comparisonArity spelling =>
      some ("Value error, Comparison '" ++ spelling ++
        "' takes exactly two operands.")
  | _ => none

end IssueKind

inductive Step where
  | key (name : String)
  | position (index : Int)
deriving DecidableEq, Repr

structure Issue where
  kind : IssueKind
  path : List Step
deriving DecidableEq, Repr

abbrev Reading (α : Type) : Type := Except (List Issue) α

namespace Reading

def fail (kind : IssueKind) : Reading α := .error [⟨kind, []⟩]

def under (step : Step) : Reading α → Reading α
  | .ok result => .ok result
  | .error issues =>
      .error (issues.map fun issue => { issue with path := step :: issue.path })

def both (first : Reading α) (second : Reading β) : Reading (α × β) :=
  match first, second with
  | .ok left, .ok right => .ok (left, right)
  | .ok _, .error issues => .error issues
  | .error issues, .ok _ => .error issues
  | .error issues, .error further => .error (issues ++ further)

def items (position : Nat) : List (Reading α) → Reading (List α)
  | [] => .ok []
  | item :: rest =>
      (both (item.under (.position position)) (items (position + 1) rest)).map
        fun parts => parts.1 :: parts.2

theorem map_eq_ok {reading : Reading α} {f : α → β} {result : β} :
    reading.map f = .ok result ↔
      ∃ value, reading = .ok value ∧ f value = result := by
  cases reading <;> simp [Except.map]

theorem under_eq_ok {reading : Reading α} {step : Step} {result : α} :
    reading.under step = .ok result ↔ reading = .ok result := by
  cases reading <;> simp [under]

theorem both_eq_ok {first : Reading α} {second : Reading β}
    {result : α × β} :
    first.both second = .ok result ↔
      first = .ok result.1 ∧ second = .ok result.2 := by
  cases first <;> cases second <;> simp [both, Prod.ext_iff]

theorem items_eq_ok {position : Nat} {readings : List (Reading α)}
    {results : List α} :
    items position readings = .ok results ↔
      readings = results.map Except.ok := by
  induction readings generalizing position results with
  | nil => cases results <;> simp [items]
  | cons item rest ih =>
      cases results with
      | nil => simp [items, map_eq_ok]
      | cons result results =>
          simp only [items, map_eq_ok, both_eq_ok, under_eq_ok, ih,
            List.cons.injEq, List.map_cons]
          constructor
          · rintro ⟨parts, ⟨hitem, hrest⟩, hresult, hresults⟩
            exact ⟨hresult ▸ hitem, hresults ▸ hrest⟩
          · rintro ⟨hitem, hrest⟩
            exact ⟨(result, results), ⟨hitem, hrest⟩, rfl, rfl⟩

end Reading

end StructuredCql
