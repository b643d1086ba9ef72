import StructuredCql.Expr.Reading
import StructuredCql.Proofs.Records
import StructuredCql.Query.Reading

/-!
# The kind of a mapping

An expression and an assignment can be of several kinds, and a mapping is read
as the kind that its keys announce first.  Each kind has a reader that looks at
all keys.  The main statement is that nothing is lost by looking at one key:
what any reader accepts announces the kind of this reader and no other, so it
is read as this kind, and what announces two kinds is read by none.
-/

namespace StructuredCql

/-! ## Announcements -/

section Announcements

variable {κ α β : Type} (announcements : List (String × κ))
  (entries : List (Value × α))

/-- The keys announce a kind, and no other kind. -/
structure Announces (kind : κ) : Prop where
  some_key : ∃ name, (name, kind) ∈ announcements ∧
    Record.has name entries = true
  no_other : ∀ announcement ∈ announcements,
    Record.has announcement.1 entries = true → announcement.2 = kind

variable {announcements entries}

theorem Announces.announced?_eq {kind : κ}
    (announces : Announces announcements entries kind) :
    Record.announced? announcements entries = some kind := by
  obtain ⟨name, listed, present⟩ := announces.some_key
  unfold Record.announced?
  cases found : announcements.find? fun announcement =>
      Record.has announcement.1 entries with
  | none =>
      have absent := List.find?_eq_none.mp found (name, kind) listed
      exact absurd present absent
  | some announcement =>
      have present : Record.has announcement.1 entries = true := by
        simpa using List.find?_some found
      have same := announces.no_other announcement
        (List.mem_of_find?_eq_some found) present
      rw [Option.map_some, same]

theorem Announces.of_closed {kind : κ} {fields : List String} {name : String}
    (closed : Record.closed entries fields = .ok ())
    (listed : (name, kind) ∈ announcements)
    (present : Record.has name entries = true)
    (own : ∀ announcement ∈ announcements,
      announcement.1 ∈ fields → announcement.2 = kind) :
    Announces announcements entries kind := by
  refine ⟨⟨name, listed, present⟩, ?_⟩
  intro announcement member found
  obtain ⟨entry, isEntry, letters⟩ := Record.has_iff.mp found
  obtain ⟨field, isField, same⟩ :=
    Record.closed_eq_ok_iff.mp closed entry isEntry
  apply own announcement member
  rw [letters] at same
  exact Option.some.inj same ▸ isField

theorem Announces.of_singleton {kind : κ} {key : Value} {value : α}
    {name : String} (letters : key.letters? = some name)
    (listed : (name, kind) ∈ announcements)
    (own : ∀ announcement ∈ announcements,
      announcement.1 = name → announcement.2 = kind) :
    Announces announcements [(key, value)] kind := by
  refine ⟨⟨name, listed, Record.has_iff.mpr ⟨_, List.mem_cons_self, letters⟩⟩,
    ?_⟩
  intro announcement member found
  obtain ⟨entry, isEntry, same⟩ := Record.has_iff.mp found
  cases List.mem_singleton.mp isEntry
  apply own announcement member
  rw [letters] at same
  exact (Option.some.inj same).symm

end Announcements

/-- A union of kinds reads a mapping as well as trying the reader of every kind
would do. -/
structure Dispatches {κ α : Type} (announcements : List (String × κ))
    (entries : List (Value × Value)) (read : κ → Reading α)
    (union : Reading α) : Prop where
  accepts_iff : (∃ result, union = .ok result) ↔
    ∃ kind result, read kind = .ok result
  unique : ∀ kind other result further, read kind = .ok result →
    read other = .ok further → other = kind
  selected : ∀ kind result, read kind = .ok result →
    Record.announced? announcements entries = some kind ∧ union = .ok result
  refuses : ∀ first ∈ announcements, ∀ second ∈ announcements,
    first.2 ≠ second.2 → Record.has first.1 entries = true →
    Record.has second.1 entries = true → ∀ result, union ≠ .ok result

theorem Dispatches.of_announces {κ α : Type}
    {announcements : List (String × κ)} {entries : List (Value × Value)}
    {read : κ → Reading α} {union : Reading α}
    (announces : ∀ kind result, read kind = .ok result →
      Announces announcements entries kind)
    (union_eq_ok_iff : ∀ result, union = .ok result ↔
      ∃ kind, Record.announced? announcements entries = some kind ∧
        read kind = .ok result) :
    Dispatches announcements entries read union where
  accepts_iff := by
    constructor
    · rintro ⟨result, accepted⟩
      obtain ⟨kind, _, accepted⟩ := (union_eq_ok_iff result).mp accepted
      exact ⟨kind, result, accepted⟩
    · rintro ⟨kind, result, accepted⟩
      have selected := (announces kind result accepted).announced?_eq
      exact ⟨result, (union_eq_ok_iff result).mpr ⟨kind, selected, accepted⟩⟩
  unique := by
    intro kind other result further accepted alsoAccepted
    have first := (announces kind result accepted).announced?_eq
    have second := (announces other further alsoAccepted).announced?_eq
    exact Option.some.inj (second.symm.trans first)
  selected := by
    intro kind result accepted
    have selected := (announces kind result accepted).announced?_eq
    exact ⟨selected, (union_eq_ok_iff result).mpr ⟨kind, selected, accepted⟩⟩
  refuses := by
    intro first isFirst second isSecond differ hasFirst hasSecond result
      accepted
    obtain ⟨kind, _, accepted⟩ := (union_eq_ok_iff result).mp accepted
    have announces := announces kind result accepted
    apply differ
    rw [announces.no_other first isFirst hasFirst,
      announces.no_other second isSecond hasSecond]

/-! ## Kinds of expressions -/

namespace NodeKind

def fields : NodeKind → List String
  | .column => ["col"]
  | .literal => ["value"]
  | .param => ["param"]
  | .call => ["func", "args"]
  | .cast => ["cast", "type"]
  | .blob => ["as_blob", "type"]
  | .fragment => ["fragment", "args"]
  | .compare => ["op", "left", "right"]
  | .and => ["AND"]
  | .or => ["OR"]
  | .not => ["NOT"]
  | .membership => ["IN"]
  | .nullCheck => ["operand", "negated"]

def keyField (kind : NodeKind) : String := kind.fields.headD ""

theorem keyField_mem_announcements (kind : NodeKind) :
    (kind.keyField, kind) ∈ announcements := by
  cases kind <;> decide

theorem eq_of_announcement_mem_fields (kind : NodeKind) :
    ∀ announcement ∈ announcements, announcement.1 ∈ kind.fields →
      announcement.2 = kind := by
  cases kind <;> decide

theorem announcement_unique : ∀ announcement ∈ announcements,
    ∀ other ∈ announcements, announcement.1 = other.1 →
      announcement.2 = other.2 := by
  decide

variable {entries : List (Value × Part)} {operand : Expr}

private theorem announces_of_record {β : Type} {kind : NodeKind}
    {parts : Reading β} {make : β → Expr}
    (read : (Record.read entries kind.fields parts).map make = .ok operand)
    (keyed : ∀ result, parts = .ok result →
      Record.has kind.keyField entries = true) :
    Announces announcements entries kind := by
  obtain ⟨result, inner, _⟩ := Reading.map_eq_ok.mp read
  obtain ⟨held, closed⟩ := Record.read_eq_ok.mp inner
  exact .of_closed closed kind.keyField_mem_announcements (keyed result held)
    kind.eq_of_announcement_mem_fields

private theorem announces_of_single {kind : NodeKind} {key : Value}
    {part : Part} {spelling : String} (letters : key.letters? = some spelling)
    (listed : (spelling, kind) ∈ announcements) :
    Announces announcements [(key, part)] kind :=
  .of_singleton letters listed fun announcement member same =>
    announcement_unique announcement member _ listed same

private theorem announces_of_namedComparison
    (read : readNamedComparison entries = .ok operand) :
    Announces announcements entries .compare :=
  announces_of_record read fun _ held =>
    Record.has_of_required (Reading.both_eq_ok.mp held).1

private theorem announces_of_namedNullCheck
    (read : readNamedNullCheck entries = .ok operand) :
    Announces announcements entries .nullCheck :=
  announces_of_record read fun _ held =>
    Record.has_of_required (Reading.both_eq_ok.mp held).1

private theorem mem_announcements_of_comparison {key : Value}
    {comparison : Comparison} (found : comparisonOf? key = some comparison) :
    ∃ spelling, key.letters? = some spelling ∧
      (spelling, .compare) ∈ announcements := by
  obtain ⟨spelling, letters, found⟩ := Option.bind_eq_some_iff.mp found
  refine ⟨spelling, letters, List.mem_append_right _ ?_⟩
  exact List.mem_map.mpr ⟨(spelling, comparison), mem_of_lookup found, rfl⟩

private theorem mem_announcements_of_nullCheck {key : Value} {negated : Bool}
    (found : negationOf? key = some negated) :
    ∃ spelling, key.letters? = some spelling ∧
      (spelling, .nullCheck) ∈ announcements := by
  obtain ⟨spelling, letters, found⟩ := Option.bind_eq_some_iff.mp found
  refine ⟨spelling, letters,
    List.mem_append_left _ (List.mem_append_right _ ?_)⟩
  exact List.mem_map.mpr ⟨(spelling, negated), mem_of_lookup found, rfl⟩

theorem announces_of_read {kind : NodeKind}
    (read : kind.read entries = .ok operand) :
    Announces announcements entries kind := by
  cases kind with
  | column | literal | param | not =>
      exact announces_of_record read fun _ => Record.has_of_required
  | call | cast | blob | fragment =>
      exact announces_of_record read fun _ held =>
        Record.has_of_required (Reading.both_eq_ok.mp held).1
  | and | or | membership =>
      exact announces_of_record read fun _ => Record.has_of_required
  | compare =>
      rcases readComparison_eq_or entries with
        named | ⟨key, part, comparison, rfl, found, _⟩
      · rw [NodeKind.read, named] at read
        exact announces_of_namedComparison read
      · obtain ⟨spelling, letters, listed⟩ :=
          mem_announcements_of_comparison found
        exact announces_of_single letters listed
  | nullCheck =>
      rcases readNullCheck_eq_or entries with
        named | ⟨key, part, negated, rfl, found, _⟩
      · rw [NodeKind.read, named] at read
        exact announces_of_namedNullCheck read
      · obtain ⟨spelling, letters, listed⟩ :=
          mem_announcements_of_nullCheck found
        exact announces_of_single letters listed

end NodeKind

section Expressions

variable {entries : List (Value × Value)}

theorem NodeKind.ofEntries?_eq (entries : List (Value × Value)) :
    NodeKind.ofEntries? (Part.ofEntries entries) =
      Record.announced? announcements entries := by
  unfold ofEntries? Record.announced? Record.has
  simp only [Part.find?_ofEntries, Option.isSome_map]

theorem Expr.ofValue_mapping_eq_ok {operand : Expr} :
    Expr.ofValue (.mapping entries) = .ok operand ↔
      ∃ kind, Record.announced? NodeKind.announcements entries = some kind ∧
        kind.read (Part.ofEntries entries) = .ok operand := by
  rw [Expr.ofValue, Expr.ofParts, NodeKind.ofEntries?_eq]
  cases Record.announced? NodeKind.announcements entries with
  | none => simp [Reading.fail]
  | some kind => simp [Reading.under_eq_ok]

theorem NodeKind.announces_of_read_ofEntries {kind : NodeKind} {operand : Expr}
    (read : kind.read (Part.ofEntries entries) = .ok operand) :
    Announces announcements entries kind := by
  obtain ⟨⟨name, listed, present⟩, own⟩ := announces_of_read read
  simp only [Record.has, Part.find?_ofEntries, Option.isSome_map]
    at present own
  exact ⟨⟨name, listed, present⟩, own⟩

theorem Expr.ofValue_mapping_of_read {kind : NodeKind} {operand : Expr}
    (read : kind.read (Part.ofEntries entries) = .ok operand) :
    Expr.ofValue (.mapping entries) = .ok operand :=
  Expr.ofValue_mapping_eq_ok.mpr
    ⟨kind, (NodeKind.announces_of_read_ofEntries read).announced?_eq, read⟩

end Expressions

/-! ## Kinds of assignments -/

namespace AssignmentKind

variable {entries : List (Value × Value)}

theorem announces_of_read {kind : AssignmentKind} {assignment : Assignment}
    (accepted : kind.read (.mapping entries) = .ok assignment) :
    Announces announcements entries kind := by
  cases kind <;>
  · obtain ⟨_, inner, _⟩ := Reading.map_eq_ok.mp accepted
    obtain ⟨held, closed⟩ := Record.read_eq_ok.mp inner
    have present := Record.has_of_required (Reading.both_eq_ok.mp held).1
    exact .of_closed closed (by decide) present (by decide)

end AssignmentKind

theorem Assignment.ofValue_mapping_eq_ok {entries : List (Value × Value)}
    {assignment : Assignment} :
    Assignment.ofValue (.mapping entries) = .ok assignment ↔
      ∃ kind,
        Record.announced? AssignmentKind.announcements entries = some kind ∧
        kind.read (.mapping entries) = .ok assignment := by
  rw [Assignment.ofValue]
  cases Record.announced? AssignmentKind.announcements entries with
  | none => simp [Reading.fail]
  | some kind => simp [Reading.under_eq_ok]

theorem Assignment.ofValue_mapping_of_read (kind : AssignmentKind)
    {entries : List (Value × Value)} {assignment : Assignment}
    (read : kind.read (.mapping entries) = .ok assignment) :
    Assignment.ofValue (.mapping entries) = .ok assignment :=
  Assignment.ofValue_mapping_eq_ok.mpr
    ⟨kind, (AssignmentKind.announces_of_read read).announced?_eq, read⟩

/-- Every mapping that one of the readers accepts is accepted by one only, and
is read by it; a mapping that announces two kinds is not read. -/
theorem mapping_read_by_announced_kind (entries : List (Value × Value)) :
    Dispatches NodeKind.announcements entries
        (fun kind => kind.read (Part.ofEntries entries))
        (Expr.ofValue (.mapping entries)) ∧
      Dispatches AssignmentKind.announcements entries
        (fun kind => kind.read (.mapping entries))
        (Assignment.ofValue (.mapping entries)) := by
  constructor
  · apply Dispatches.of_announces
    · intro kind operand accepted
      exact NodeKind.announces_of_read_ofEntries accepted
    · intro operand
      exact Expr.ofValue_mapping_eq_ok
  · apply Dispatches.of_announces
    · intro kind assignment accepted
      exact AssignmentKind.announces_of_read accepted
    · intro assignment
      exact Assignment.ofValue_mapping_eq_ok

end StructuredCql
