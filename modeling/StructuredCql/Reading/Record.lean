import StructuredCql.Reading.Scalar
import StructuredCql.Value.Display
import StructuredCql.Value.Writable

/-!
# Reading records

A record is read from a mapping whose keys are the names of its fields.  The
fields are read in their own order; keys that are no fields are refused after
them, in the order of the mapping.
-/

namespace StructuredCql

namespace Value

def isKey (name : String) (key : Value) : Bool := key.letters? = some name

theorem isKey_iff {name : String} {key : Value} :
    key.isKey name = true ↔ key.letters? = some name := by
  simp [isKey]

def shownOrKind (value : Value) : String :=
  if value.isWritable then value.display
  else "<unprintable " ++ value.kindName ++ " object>"

/-- A key as a step of a path: letters and whole numbers of 64 bits as they
are, all others by the form that messages show. -/
def step : Value → Step
  | .text name => .key name
  | .word value => .key value.name
  | .bool value => .position (if value then 1 else 0)
  | .int value =>
      if Whole.fits64 value then .position value
      else .key (Value.int value).shownOrKind
  | value => .key value.shownOrKind

end Value

namespace Record

def find? (name : String) : List (Value × α) → Option α
  | [] => none
  | (key, value) :: rest =>
      if key.isKey name then some value else find? name rest

def has (name : String) (entries : List (Value × α)) : Bool :=
  (find? name entries).isSome

/-- The kind of a record by its keys; of the keys that announce a kind, an
earlier one in the list wins over a later one. -/
def announced? (announcements : List (String × κ))
    (entries : List (Value × α)) : Option κ :=
  (announcements.find? fun announcement =>
    has announcement.1 entries).map Prod.snd

def required (entries : List (Value × α)) (name : String)
    (read : α → Reading β) : Reading β :=
  Reading.under (.key name) <| match find? name entries with
    | some value => read value
    | none => .fail .missing

def optional (entries : List (Value × α)) (name : String) (default : β)
    (read : α → Reading β) : Reading β :=
  match find? name entries with
  | some value => (read value).under (.key name)
  | none => .ok default

def keyIssue? (fields : List String) (key : Value) : Option Issue :=
  match key.letters? with
  | none => some ⟨.invalidKey, [key.step]⟩
  | some name =>
      if fields.contains name then none
      else some ⟨.extraForbidden, [key.step]⟩

def closed (entries : List (Value × α)) (fields : List String) :
    Reading Unit :=
  match entries.filterMap fun entry => keyIssue? fields entry.1 with
  | [] => .ok ()
  | issues => .error issues

def read (entries : List (Value × α)) (fields : List String)
    (parts : Reading β) : Reading β :=
  (Reading.both parts (closed entries fields)).map Prod.fst

theorem required_eq_ok {entries : List (Value × α)} {name : String}
    {readField : α → Reading β} {result : β} :
    required entries name readField = .ok result ↔
      ∃ value, find? name entries = some value ∧
        readField value = .ok result := by
  unfold required
  rw [Reading.under_eq_ok]
  cases find? name entries <;> simp [Reading.fail]

theorem optional_eq_ok {entries : List (Value × α)} {name : String}
    {default : β} {readField : α → Reading β} {result : β} :
    optional entries name default readField = .ok result ↔
      (find? name entries = none ∧ result = default) ∨
      ∃ value, find? name entries = some value ∧
        readField value = .ok result := by
  unfold optional
  cases find? name entries with
  | none => simp [eq_comm]
  | some value => simp [Reading.under_eq_ok]

theorem read_eq_ok {entries : List (Value × α)} {fields : List String}
    {parts : Reading β} {result : β} :
    read entries fields parts = .ok result ↔
      parts = .ok result ∧ closed entries fields = .ok () := by
  unfold read
  rw [Reading.map_eq_ok]
  constructor
  · rintro ⟨_, both, rfl⟩
    exact Reading.both_eq_ok.mp both
  · intro both
    exact ⟨(result, ()), Reading.both_eq_ok.mpr both, rfl⟩

end Record

end StructuredCql
