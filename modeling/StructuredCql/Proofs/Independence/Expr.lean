import StructuredCql.Proofs.Dispatch
import StructuredCql.Proofs.Independence
import StructuredCql.Proofs.Spelling.Readers

/-!
# The text of expressions and bound values

Expressions that differ only in what parameters hold have layouts that are
alike.  The arguments of a fragment are read before they are written, so the
same has to hold of the expressions that are read from data.  What carries the
induction over both is weaker than the relation that it starts from: the layouts
are alike, and parameters and literals are told from all else.
-/

namespace StructuredCql

open Piece

variable {related : Value → Value → Prop} {alone : Bool}

/-! ## Layouts of expressions -/

/-- What is said of the expressions of two runs: parameters hold values that go
together, literals are the same, and all others have layouts that are alike. -/
inductive Expr.Twins (related : Value → Value → Prop) (alone : Bool) :
    Expr → Expr → Prop
  | param {value other : Value} (held : Held related alone value other) :
      Twins related alone (.param value) (.param other)
  | literal (value : Value) :
      Twins related alone (.literal value) (.literal value)
  | other {operand other : Expr}
      (noItems : Membership.ofValues [operand] = .each)
      (otherNoItems : Membership.ofValues [other] = .each)
      (layouts : SameLayout related operand.layout other.layout) :
      Twins related alone operand other

namespace Expr.Twins

theorem layouts {operand other : Expr}
    (twins : Expr.Twins related false operand other) :
    SameLayout related operand.layout other.layout := by
  cases twins with
  | param held =>
      cases held with
      | bound same =>
          rw [layout, layout]
          exact .cons (.mark same) .nil
  | literal value =>
      rw [layout]
      exact .ofConstant value
  | other _ _ layouts => exact layouts

theorem all_layouts {operands others : List Expr}
    (each : List.Forall₂ (Expr.Twins related false) operands others) :
    List.Forall₂ (SameLayout related) (operands.map layout)
      (others.map layout) :=
  List.rel_map (fun _ _ twins => layouts twins) each

theorem column (name : String) :
    Expr.Twins related alone (.column name) (.column name) := by
  refine .other rfl rfl ?_
  rw [layout]
  exact .ofText _

theorem call (function : CqlFunction) {args others : List Expr}
    (each : List.Forall₂ (Expr.Twins related false) args others) :
    Expr.Twins related alone (.call function args) (.call function others) := by
  refine .other rfl rfl ?_
  rw [layout, layout]
  exact .cons (.plain _) ((SameLayout.separated ", " (all_layouts each)).append
    (.cons (.plain _) .nil))

theorem cast {operand other : Expr} (typeName : String)
    (twins : Expr.Twins related false operand other) :
    Expr.Twins related alone (.cast operand typeName)
      (.cast other typeName) := by
  refine .other rfl rfl ?_
  rw [layout, layout]
  exact .cons (.plain _) (twins.layouts.append (.cons (.plain _)
    ((SameLayout.ofText _).append (.cons (.plain _) .nil))))

theorem blob {operand other : Expr} (typeName : String)
    (twins : Expr.Twins related false operand other) :
    Expr.Twins related alone (.blob operand typeName)
      (.blob other typeName) := by
  refine .other rfl rfl ?_
  rw [layout, layout]
  exact (SameLayout.ofText _).append (.cons (.plain _)
    (twins.layouts.append (.cons (.plain _) .nil)))

theorem compare (comparison : Comparison) {left right other otherRight : Expr}
    (lefts : Expr.Twins related false left other)
    (rights : Expr.Twins related false right otherRight) :
    Expr.Twins related alone (.compare comparison left right)
      (.compare comparison other otherRight) := by
  refine .other rfl rfl ?_
  rw [layout, layout]
  exact lefts.layouts.append (.cons (.plain _) rights.layouts)

theorem and {first other : Expr} {rest others : List Expr}
    (each : List.Forall₂ (Expr.Twins related false) (first :: rest)
      (other :: others)) :
    Expr.Twins related alone (.and first rest) (.and other others) := by
  refine .other rfl rfl ?_
  rw [layout, layout, ← List.map_cons, ← List.map_cons]
  exact .separated _ (all_layouts each)

theorem of_flaw {operand other : Expr} {cause otherCause : CompileError}
    (noItems : Membership.ofValues [operand] = .each)
    (otherNoItems : Membership.ofValues [other] = .each)
    (flawed : operand.layout = [.flaw cause])
    (otherFlawed : other.layout = [.flaw otherCause]) :
    Expr.Twins related alone operand other := by
  refine .other noItems otherNoItems ?_
  rw [flawed, otherFlawed]
  exact .cons (.flaw _ _) .nil

theorem or (first other : Expr) (rest others : List Expr) :
    Expr.Twins related alone (.or first rest) (.or other others) :=
  of_flaw rfl rfl (by rw [layout]) (by rw [layout])

theorem not (operand other : Expr) :
    Expr.Twins related alone (.not operand) (.not other) :=
  of_flaw rfl rfl (by rw [layout]) (by rw [layout])

theorem nullCheck (operand other : Expr) (negated : Bool) :
    Expr.Twins related alone (.nullCheck operand negated)
      (.nullCheck other negated) :=
  of_flaw rfl rfl (by rw [layout]) (by rw [layout])

theorem keywords (entries further : List (String × Value))
    (args others : List Value) :
    Expr.Twins related alone (.keywords entries args)
      (.keywords further others) :=
  of_flaw rfl rfl (by rw [layout]) (by rw [layout])

/-! ### Memberships -/

theorem membership_layouts {operand other : Expr} {values others : List Expr}
    (twins : Expr.Twins related false operand other)
    (each : List.Forall₂ (Expr.Twins related false) values others)
    (several : values.length ≠ 1) :
    SameLayout related (Expr.membership operand values).layout
      (Expr.membership other others).layout := by
  rw [layout, layout]
  cases each with
  | nil => exact .cons (.flaw _ _) .nil
  | cons first rest =>
      cases rest with
      | nil => exact absurd rfl several
      | cons second rest =>
          rw [Membership.ofValues_of_several, Membership.ofValues_of_several]
          exact .listed twins.layouts
            (all_layouts (.cons first (.cons second rest)))

theorem single_layouts {operand other value otherValue : Expr}
    (twins : Expr.Twins related false operand other)
    (values : Expr.Twins related true value otherValue) :
    SameLayout related (Expr.membership operand [value]).layout
      (Expr.membership other [otherValue]).layout := by
  rw [layout, layout]
  cases values with
  | param held =>
      cases held with
      | single noItems otherNoItems same =>
          simp only [Membership.ofValues, noItems, otherNoItems, List.map_cons,
            List.map_nil, layout]
          exact .listed twins.layouts (.cons (.cons (.mark same) .nil) .nil)
      | items listed otherListed each =>
          simp only [Membership.ofValues, listed, otherListed]
          cases each with
          | nil => exact .cons (.flaw _ _) .nil
          | cons first rest =>
              refine .listed twins.layouts (List.rel_map ?_ (.cons first rest))
              exact fun _ _ same => .cons (.mark same) .nil
  | literal value =>
      simp only [Membership.ofValues]
      cases value.items? with
      | none =>
          exact .listed twins.layouts
            (.cons (layouts (.literal value)) .nil)
      | some items =>
          cases items with
          | nil => exact .cons (.flaw _ _) .nil
          | cons first rest =>
              refine .listed twins.layouts (List.forall₂_same.mpr ?_)
              intro pieces member
              obtain ⟨item, _, rfl⟩ := List.mem_map.mp member
              exact .ofConstant item
  | other noItems otherNoItems layouts =>
      rw [noItems, otherNoItems]
      exact .listed twins.layouts (.cons layouts .nil)

end Expr.Twins

/-! ## Readings of data -/

def ReadAlike (related : Value → Value → Prop) (alone : Bool)
    (value other : Value) : Prop :=
  SameOutcome (Expr.Twins related alone) (Expr.ofValue value)
    (Expr.ofValue other)

theorem ReadAlike.readings {items others : List Value}
    (each : List.Forall₂ (ReadAlike related alone) items others) :
    List.Forall₂ (SameOutcome (Expr.Twins related alone))
      (items.map Expr.ofValue) (others.map Expr.ofValue) :=
  List.forall₂_map_left_iff.mpr (List.forall₂_map_right_iff.mpr each)

theorem ReadAlike.argumentLayouts {value other : Value}
    (alike : ReadAlike related false value other) :
    SameLayout related value.argumentLayout other.argumentLayout := by
  unfold Value.argumentLayout
  obtain ⟨_, _, read, otherRead, twins⟩ | ⟨_, _, read, otherRead⟩ := alike.cases
  · rw [read, otherRead]
    exact twins.layouts
  · rw [read, otherRead]
    exact .cons (.flaw _ _) .nil

theorem Expr.Twins.fragment (template : String) {args others : List Value}
    (each : List.Forall₂ (ReadAlike related false) args others) :
    Expr.Twins related alone (.fragment template args)
      (.fragment template others) := by
  refine .other rfl rfl ?_
  rw [layout_fragment, layout_fragment, each.length_eq]
  exact .filled _ _ _
    (List.rel_map (fun _ _ alike => alike.argumentLayouts) each)

namespace Part

theorem items_of (value : Value) :
    (Part.of value).items = value.items?.map (List.map Expr.ofValue) := by
  cases value <;>
    simp [Part.of, itemsOf, Value.items?, Expr.ofValues_eq_map]

theorem elements_of (value : Value) :
    (Part.of value).elements = value.elements?.map (List.map Expr.ofValue) := by
  rw [elements, items_of, Value.elements?]
  cases value.items? with
  | some items => rfl
  | none =>
      change (value.fields?.map _) = (value.fields?.map _).map _
      cases value.fields? with
      | none => rfl
      | some fields =>
          simp only [Option.map_some, List.map_map, Option.some.injEq]
          rfl

theorem arguments_of (value : Value) :
    (Part.of value).arguments =
      value.elements?.elim (.fail .listType) .ok := by
  rw [arguments, Part.of]
  cases value.elements? <;> rfl

theorem template_of_mapping {entries : List (Value × Value)}
    (sound : keywordIssues entries = []) :
    (Part.of (.mapping entries)).template = .ok (.inr (keywords entries)) := by
  simp only [template, Part.of, Value.readText, Reading.fail, sound]

theorem template_of_mapping_eq_error {entries : List (Value × Value)}
    (unsound : keywordIssues entries ≠ []) :
    ∃ issues, (Part.of (.mapping entries)).template = .error issues := by
  simp only [template, Part.of, Value.readText, Reading.fail]
  exact ⟨_, rfl⟩

end Part

inductive Part.SameTemplate : String ⊕ List (String × Value) →
    String ⊕ List (String × Value) → Prop
  | text (text : String) : SameTemplate (.inl text) (.inl text)
  | keywords (entries others : List (String × Value)) :
      SameTemplate (.inr entries) (.inr others)

theorem Part.SameTemplate.refl :
    ∀ template : String ⊕ List (String × Value), SameTemplate template template
  | .inl template => .text template
  | .inr entries => .keywords entries entries

/-- What is said of the data of two runs: it is read alike, as it is, item by
item and as the text of a fragment, and is the same unless there are expressions
in it. -/
structure Value.Twins (related : Value → Value → Prop) (alone : Bool)
    (value other : Value) : Prop where
  operand : ReadAlike related alone value other
  items : Option.Rel (List.Forall₂ (ReadAlike related false)) value.items?
    other.items?
  fields : value.fields?.map List.length = other.fields?.map List.length
  template : SameOutcome Part.SameTemplate (Part.of value).template
    (Part.of other).template
  data : value = other ∨ (value.isPlain = false ∧ other.isPlain = false)

namespace Value.Twins

variable {value other : Value}

private theorem pairs_alike {fields others : List (String × Value)}
    (same : fields.length = others.length) :
    List.Forall₂ (ReadAlike related false)
      (fields.map fun field => .tuple [.text field.1, field.2])
      (others.map fun field => .tuple [.text field.1, field.2]) := by
  induction fields generalizing others with
  | nil =>
      cases others with
      | nil => exact .nil
      | cons => cases same
  | cons field rest ih =>
      cases others with
      | nil => cases same
      | cons other others => exact .cons trivial (ih (Nat.succ.inj same))

theorem elements (twins : Value.Twins related alone value other) :
    Option.Rel (List.Forall₂ (ReadAlike related false)) value.elements?
      other.elements? := by
  obtain ⟨_, items, fields, _, _⟩ := twins
  unfold elements?
  cases listed : value.items? <;> cases otherListed : other.items? <;>
    rw [listed, otherListed] at items <;> cases items
  case none.none =>
    simp only [Option.none_or]
    cases found : value.fields? <;> cases otherFound : other.fields? <;>
      rw [found, otherFound] at fields
    case none.none => exact .none
    case some.some => exact .some (pairs_alike (Option.some.inj fields))
    all_goals cases fields
  case some.some each => exact .some each

theorem operands (twins : Value.Twins related alone value other) :
    SameOutcome (List.Forall₂ (Expr.Twins related false))
      (Part.of value).operands (Part.of other).operands := by
  rw [Part.operands, Part.operands, Part.elements_of, Part.elements_of]
  have elements := twins.elements
  generalize value.elements? = listed, other.elements? = otherListed
    at elements ⊢
  cases elements with
  | none => trivial
  | some each =>
      exact .items (ReadAlike.readings each) 0

theorem someOperands (twins : Value.Twins related alone value other) :
    SameOutcome
      (fun result other => Expr.Twins related false result.1 other.1 ∧
        List.Forall₂ (Expr.Twins related false) result.2 other.2)
      (Part.of value).someOperands (Part.of other).someOperands := by
  rw [Part.someOperands, Part.someOperands, Part.elements_of,
    Part.elements_of]
  have elements := twins.elements
  generalize value.elements? = listed, other.elements? = otherListed
    at elements ⊢
  cases elements with
  | none => trivial
  | some each =>
      cases each with
      | nil => trivial
      | cons first rest =>
          exact (SameOutcome.under first _).both
            (.items (ReadAlike.readings rest) 1)

theorem arguments (twins : Value.Twins related alone value other) :
    SameOutcome (List.Forall₂ (ReadAlike related false))
      (Part.of value).arguments (Part.of other).arguments := by
  rw [Part.arguments_of, Part.arguments_of]
  have elements := twins.elements
  generalize value.elements? = listed, other.elements? = otherListed
    at elements ⊢
  cases elements with
  | none => trivial
  | some each => exact each

theorem same_data {β : Type} {read : Value → Reading β}
    (twins : Value.Twins related alone value other)
    (refuses : ∀ part : Value, part.isPlain = false →
      ∃ issues, read part = .error issues) :
    SameOutcome Eq (read value) (read other) := by
  rcases twins.data with rfl | ⟨notPlain, otherNotPlain⟩
  · exact .refl (fun _ => rfl) _
  · obtain ⟨_, refused⟩ := refuses value notPlain
    obtain ⟨_, otherRefused⟩ := refuses other otherNotPlain
    rw [refused, otherRefused]
    trivial

end Value.Twins

theorem Value.readText_of_not_plain (value : Value)
    (notPlain : value.isPlain = false) :
    ∃ issues, value.readText = .error issues := by
  cases value <;> cases notPlain <;> exact ⟨_, rfl⟩

theorem Value.readBool_of_not_plain (value : Value)
    (notPlain : value.isPlain = false) :
    ∃ issues, value.readBool = .error issues := by
  cases value <;> cases notPlain <;> exact ⟨_, rfl⟩

theorem Value.readMember_of_not_plain {κ : Type} (ofName? : String → Option κ)
    (value : Value) (notPlain : value.isPlain = false) :
    ∃ issues, value.readMember ofName? = .error issues := by
  obtain ⟨_, refused⟩ := value.readText_of_not_plain notPlain
  exact ⟨_, by rw [readMember, refused]; rfl⟩

/-! ## Readings of entries -/

def MembershipsAlike (related : Value → Value → Prop) (value other : Value) :
    Prop :=
  SameOutcome
    (fun result further => SameLayout related
      (Expr.membership result.1 result.2).layout
      (Expr.membership further.1 further.2).layout)
    (Part.of value).someOperands (Part.of other).someOperands

inductive Value.EntryTwins (related : Value → Value → Prop) (alone : Bool) :
    Value × Value → Value × Value → Prop
  | param {key value other : Value} (named : key.letters? = some "param")
      (held : Held related alone value other) :
      EntryTwins related alone (key, value) (key, other)
  | data {key value : Value}
      (named : key.letters? = some "value") :
      EntryTwins related alone (key, value) (key, value)
  | membership {key value other : Value} (named : key.letters? = some "IN")
      (memberships : MembershipsAlike related value other) :
      EntryTwins related alone (key, value) (key, other)
  | other {key value other : Value}
      (named : ∀ name ∈ specialKeys, key.letters? ≠ some name)
      (twins : Value.Twins related false value other) :
      EntryTwins related alone (key, value) (key, other)

section Entries

open Record

variable {entries others : List (Value × Value)}

theorem Value.EntryTwins.same_key {entry other : Value × Value}
    (twins : Value.EntryTwins related alone entry other) :
    other.1 = entry.1 := by
  cases twins <;> rfl

private theorem find?_twins
    (each : List.Forall₂ (Value.EntryTwins related alone) entries others)
    (name : String) :
    (find? name entries = none ∧ find? name others = none) ∨
    ∃ key value other, key.letters? = some name ∧
      find? name entries = some value ∧ find? name others = some other ∧
      Value.EntryTwins related alone (key, value) (key, other) := by
  induction each with
  | nil => exact .inl ⟨rfl, rfl⟩
  | @cons entry other rest others first _ ih =>
      obtain ⟨key, value⟩ := entry
      obtain ⟨otherKey, otherValue⟩ := other
      obtain rfl : otherKey = key := first.same_key
      by_cases isKey : otherKey.isKey name = true
      · simp only [find?, isKey, if_true]
        exact .inr ⟨_, _, _, Value.isKey_iff.mp isKey, rfl, rfl, first⟩
      · simpa only [find?, isKey, Bool.false_eq_true, if_false] using ih

private theorem has_eq
    (each : List.Forall₂ (Value.EntryTwins related alone) entries others)
    (name : String) : has name others = has name entries := by
  unfold has
  rcases find?_twins each name with
    ⟨absent, otherAbsent⟩ | ⟨_, _, _, _, found, otherFound, _⟩
  · rw [absent, otherAbsent]
  · rw [found, otherFound]
    rfl

private theorem same_keys
    (each : List.Forall₂ (Value.EntryTwins related alone) entries others) :
    others.map Prod.fst = entries.map Prod.fst := by
  induction each with
  | nil => rfl
  | cons first _ ih => rw [List.map_cons, List.map_cons, first.same_key, ih]

private theorem closed_eq
    (each : List.Forall₂ (Value.EntryTwins related alone) entries others)
    (fields : List String) :
    closed (Part.ofEntries others) fields =
      closed (Part.ofEntries entries) fields := by
  have issues : ∀ entries : List (Value × Value),
      (entries.filterMap fun entry => keyIssue? fields entry.1) =
        (entries.map Prod.fst).filterMap (keyIssue? fields) := by
    intro entries
    rw [List.filterMap_map]
    rfl
  rw [Part.closed_ofEntries, Part.closed_ofEntries]
  unfold closed
  rw [issues, issues, same_keys each]

private theorem keywordIssues_eq
    (each : List.Forall₂ (Value.EntryTwins related alone) entries others) :
    Part.keywordIssues others = Part.keywordIssues entries := by
  unfold Part.keywordIssues
  induction each with
  | nil => rfl
  | cons first _ ih =>
      rw [List.flatMap_cons, List.flatMap_cons, first.same_key, ih]

variable {β : Type} {fits : β → β → Prop} {name : String}
  {readField : Part → Reading β}

private theorem required_alike
    (each : List.Forall₂ (Value.EntryTwins related alone) entries others)
    (alike : ∀ key value other, key.letters? = some name →
      Value.EntryTwins related alone (key, value) (key, other) →
      SameOutcome fits (readField (Part.of value))
        (readField (Part.of other))) :
    SameOutcome fits (required (Part.ofEntries entries) name readField)
      (required (Part.ofEntries others) name readField) := by
  unfold required
  rw [Part.find?_ofEntries, Part.find?_ofEntries]
  rcases find?_twins each name with
    ⟨absent, otherAbsent⟩ |
    ⟨key, value, other, letters, found, otherFound, twins⟩
  · rw [absent, otherAbsent]
    trivial
  · rw [found, otherFound]
    exact (alike key value other letters twins).under _

private theorem optional_alike {default : β}
    (each : List.Forall₂ (Value.EntryTwins related alone) entries others)
    (same : fits default default)
    (alike : ∀ key value other, key.letters? = some name →
      Value.EntryTwins related alone (key, value) (key, other) →
      SameOutcome fits (readField (Part.of value))
        (readField (Part.of other))) :
    SameOutcome fits
      (Record.optional (Part.ofEntries entries) name default readField)
      (Record.optional (Part.ofEntries others) name default readField) := by
  unfold Record.optional
  rw [Part.find?_ofEntries, Part.find?_ofEntries]
  rcases find?_twins each name with
    ⟨absent, otherAbsent⟩ |
    ⟨key, value, other, letters, found, otherFound, twins⟩
  · rw [absent, otherAbsent]
    exact same
  · rw [found, otherFound]
    exact (alike key value other letters twins).under _

private theorem read_alike {fields : List String} {parts further : Reading β}
    (each : List.Forall₂ (Value.EntryTwins related alone) entries others)
    (same : SameOutcome fits parts further) :
    SameOutcome fits (Record.read (Part.ofEntries entries) fields parts)
      (Record.read (Part.ofEntries others) fields further) := by
  unfold Record.read
  rw [closed_eq each]
  exact (same.both (.refl (fun _ => rfl) _)).map fun _ _ both => both.1

private theorem twins_of_letters {key value other : Value}
    (letters : key.letters? = some name)
    (plain : name ∉ specialKeys)
    (twins : Value.EntryTwins related alone (key, value) (key, other)) :
    Value.Twins related false value other := by
  cases twins with
  | param named =>
      cases letters.symm.trans named
      exact absurd (by decide) plain
  | data named =>
      cases letters.symm.trans named
      exact absurd (by decide) plain
  | membership named =>
      cases letters.symm.trans named
      exact absurd (by decide) plain
  | other _ twins => exact twins

private theorem required_plain
    (each : List.Forall₂ (Value.EntryTwins related alone) entries others)
    (plain : name ∉ specialKeys)
    (alike : ∀ value other, Value.Twins related false value other →
      SameOutcome fits (readField (Part.of value))
        (readField (Part.of other))) :
    SameOutcome fits (required (Part.ofEntries entries) name readField)
      (required (Part.ofEntries others) name readField) :=
  required_alike each fun _ value other letters twins =>
    alike value other (twins_of_letters letters plain twins)

private theorem optional_plain {default : β}
    (each : List.Forall₂ (Value.EntryTwins related alone) entries others)
    (plain : name ∉ specialKeys)
    (same : fits default default)
    (alike : ∀ value other, Value.Twins related false value other →
      SameOutcome fits (readField (Part.of value))
        (readField (Part.of other))) :
    SameOutcome fits
      (Record.optional (Part.ofEntries entries) name default readField)
      (Record.optional (Part.ofEntries others) name default readField) :=
  optional_alike each same fun _ value other letters twins =>
    alike value other (twins_of_letters letters plain twins)

theorem Value.EntryTwins.eq_of_value {key value other : Value}
    (twins : Value.EntryTwins related alone (key, value) (key, other))
    (letters : key.letters? = some "value") : other = value := by
  cases twins with
  | data => rfl
  | param named => simp [letters] at named
  | membership named => simp [letters] at named
  | other named => exact absurd letters (named _ (by decide))

theorem Value.EntryTwins.memberships_of_in {key value other : Value}
    (twins : Value.EntryTwins related alone (key, value) (key, other))
    (letters : key.letters? = some "IN") :
    MembershipsAlike related value other := by
  cases twins with
  | membership _ memberships => exact memberships
  | param named => simp [letters] at named
  | data named => simp [letters] at named
  | other named => exact absurd letters (named _ (by decide))

theorem Value.EntryTwins.held_of_param {key value other : Value}
    (twins : Value.EntryTwins related alone (key, value) (key, other))
    (letters : key.letters? = some "param") :
    Held related alone value other := by
  cases twins with
  | param _ held => exact held
  | data named => simp [letters] at named
  | membership named => simp [letters] at named
  | other named => exact absurd letters (named _ (by decide))

end Entries

/-! ## Readings of mappings -/

namespace NodeKind

variable {entries others : List (Value × Value)}
  (each : List.Forall₂ (Value.EntryTwins related alone) entries others)

include each

private theorem call_alike :
    SameOutcome (Expr.Twins related alone)
      (readCall (Part.ofEntries entries))
      (readCall (Part.ofEntries others)) := by
  refine SameOutcome.map (read_alike each <| SameOutcome.both
    (required_plain each (by decide) fun _ _ twins =>
      twins.same_data (Value.readMember_of_not_plain _))
    (optional_plain each (by decide) .nil fun _ _ twins => twins.operands)) ?_
  rintro ⟨function, args⟩ ⟨_, others⟩ ⟨rfl, alike⟩
  exact .call function alike

private theorem conversion_alike {name : String} {make : Expr → String → Expr}
    (plain : name ∉ specialKeys)
    (made : ∀ operand other typeName,
      Expr.Twins related false operand other →
      Expr.Twins related alone (make operand typeName) (make other typeName)) :
    SameOutcome (Expr.Twins related alone)
      (readConversion (Part.ofEntries entries) name make)
      (readConversion (Part.ofEntries others) name make) := by
  refine SameOutcome.map (read_alike each <| SameOutcome.both
    (required_plain each plain fun _ _ twins => twins.operand)
    (required_plain each (by decide) fun _ _ twins =>
      twins.same_data Value.readText_of_not_plain)) ?_
  rintro ⟨operand, typeName⟩ ⟨other, _⟩ ⟨alike, rfl⟩
  exact made operand other typeName alike

private theorem fragment_alike :
    SameOutcome (Expr.Twins related alone)
      (readFragment (Part.ofEntries entries))
      (readFragment (Part.ofEntries others)) := by
  refine SameOutcome.map (read_alike each <| SameOutcome.both
    (required_plain each (by decide) fun _ _ twins => twins.template)
    (optional_plain each (by decide) .nil fun _ _ twins => twins.arguments)) ?_
  rintro ⟨template, args⟩ ⟨other, others⟩ ⟨templates, alike⟩
  cases templates with
  | text text => exact .fragment text alike
  | keywords entries further => exact .keywords entries further args others

private theorem namedComparison_alike :
    SameOutcome (Expr.Twins related alone)
      (readNamedComparison (Part.ofEntries entries))
      (readNamedComparison (Part.ofEntries others)) := by
  refine SameOutcome.map (read_alike each <| SameOutcome.both
    (required_plain each (by decide) fun _ _ twins =>
      twins.same_data (Value.readMember_of_not_plain _)) <|
    SameOutcome.both
      (required_plain each (by decide) fun _ _ twins => twins.operand)
      (required_plain each (by decide) fun _ _ twins => twins.operand)) ?_
  rintro ⟨comparison, left, right⟩ ⟨_, otherLeft, otherRight⟩
    ⟨rfl, lefts, rights⟩
  exact .compare comparison lefts rights

private theorem namedNullCheck_alike :
    SameOutcome (Expr.Twins related alone)
      (readNamedNullCheck (Part.ofEntries entries))
      (readNamedNullCheck (Part.ofEntries others)) := by
  refine SameOutcome.map (read_alike each <| SameOutcome.both
    (required_plain each (by decide) fun _ _ twins => twins.operand)
    (optional_plain each (by decide) rfl fun _ _ twins =>
      twins.same_data Value.readBool_of_not_plain)) ?_
  rintro ⟨operand, negated⟩ ⟨other, _⟩ ⟨_, rfl⟩
  exact .nullCheck operand other negated

omit each in
private theorem spelled_alike {key value other : Value}
    {comparison : Comparison}
    (twins : Value.Twins related false value other) :
    SameOutcome (Expr.Twins related alone)
      (readSpelled key comparison (Part.of value))
      (readSpelled key comparison (Part.of other)) := by
  unfold readSpelled
  rw [Part.items_of, Part.items_of]
  have items := twins.items
  generalize value.items? = listed, other.items? = otherListed at items ⊢
  cases items with
  | none => trivial
  | some each =>
      cases each with
      | nil => trivial
      | cons first rest =>
          cases rest with
          | nil => trivial
          | cons second rest =>
              cases rest with
              | cons => trivial
              | nil =>
                  refine ((SameOutcome.under first _).both
                    (SameOutcome.under second _)).map ?_
                  rintro _ _ ⟨lefts, rights⟩
                  exact .compare comparison lefts rights

omit each in
private theorem exists_letters_of_comparison {key : Value}
    {comparison : Comparison} (found : comparisonOf? key = some comparison) :
    ∃ name, key.letters? = some name ∧
      name ∉ specialKeys := by
  obtain ⟨name, letters, found⟩ := Option.bind_eq_some_iff.mp found
  have plain : ∀ spelling ∈ Comparison.spellings,
      spelling.1 ∉ specialKeys := by decide
  exact ⟨name, letters, plain _ (mem_of_lookup found)⟩

omit each in
private theorem exists_letters_of_negation {key : Value} {negated : Bool}
    (found : negationOf? key = some negated) :
    ∃ name, key.letters? = some name ∧
      name ∉ specialKeys := by
  obtain ⟨name, letters, found⟩ := Option.bind_eq_some_iff.mp found
  have plain : ∀ spelling ∈ nullCheckSpellings,
      spelling.1 ∉ specialKeys := by decide
  exact ⟨name, letters, plain _ (mem_of_lookup found)⟩

private theorem comparison_alike :
    SameOutcome (Expr.Twins related alone)
      (readComparison (Part.ofEntries entries))
      (readComparison (Part.ofEntries others)) := by
  have named := namedComparison_alike each
  cases each with
  | nil => exact named
  | @cons entry other rest others first each =>
      obtain ⟨key, value⟩ := entry
      obtain ⟨_, otherValue⟩ := other
      obtain rfl := first.same_key
      cases each with
      | @cons second otherSecond => exact named
      | nil =>
          change SameOutcome _ (readComparison [(_, Part.of value)])
            (readComparison [(_, Part.of otherValue)])
          unfold readComparison
          dsimp only
          split
          · next comparison found =>
            obtain ⟨_, letters, plain⟩ := exists_letters_of_comparison found
            exact spelled_alike (twins_of_letters letters plain first)
          · exact named

private theorem nullCheck_alike :
    SameOutcome (Expr.Twins related alone)
      (readNullCheck (Part.ofEntries entries))
      (readNullCheck (Part.ofEntries others)) := by
  have named := namedNullCheck_alike each
  cases each with
  | nil => exact named
  | @cons entry other rest others first each =>
      obtain ⟨key, value⟩ := entry
      obtain ⟨_, otherValue⟩ := other
      obtain rfl := first.same_key
      cases each with
      | @cons second otherSecond => exact named
      | nil =>
          change SameOutcome _ (readNullCheck [(_, Part.of value)])
            (readNullCheck [(_, Part.of otherValue)])
          unfold readNullCheck
          dsimp only
          split
          · next negated found =>
            obtain ⟨_, letters, plain⟩ := exists_letters_of_negation found
            have twins := twins_of_letters letters plain first
            exact (SameOutcome.under twins.operand _).map
              fun operand other _ => .nullCheck operand other negated
          · exact named

private theorem junction_alike {name : String}
    {make : Expr → List Expr → Expr}
    (plain : name ∉ specialKeys)
    (made : ∀ first other rest others,
      List.Forall₂ (Expr.Twins related false) (first :: rest)
        (other :: others) →
      Expr.Twins related alone (make first rest) (make other others)) :
    SameOutcome (Expr.Twins related alone)
      (readJunction (Part.ofEntries entries) name make)
      (readJunction (Part.ofEntries others) name make) := by
  refine SameOutcome.map (read_alike each <|
    required_plain each plain fun _ _ twins => twins.someOperands) ?_
  rintro ⟨first, rest⟩ ⟨other, others⟩ ⟨firsts, rests⟩
  exact made first other rest others (.cons firsts rests)

private theorem membership_alike :
    SameOutcome (Expr.Twins related alone)
      (NodeKind.membership.read (Part.ofEntries entries))
      (NodeKind.membership.read (Part.ofEntries others)) := by
  refine SameOutcome.map (read_alike each <|
    required_alike each fun _ _ _ letters twins =>
      twins.memberships_of_in letters) ?_
  rintro ⟨first, rest⟩ ⟨other, others⟩ layouts
  exact .other rfl rfl layouts

theorem read_twins (kind : NodeKind) :
    SameOutcome (Expr.Twins related alone) (kind.read (Part.ofEntries entries))
      (kind.read (Part.ofEntries others)) := by
  cases kind with
  | column =>
      refine SameOutcome.map (read_alike each <|
        required_plain each (by decide) fun _ _ twins =>
          twins.same_data Value.readText_of_not_plain) ?_
      rintro name _ rfl
      exact .column name
  | literal =>
      refine SameOutcome.map (read_alike each <|
        required_alike each fun _ value _ letters twins =>
          (twins.eq_of_value letters).symm) ?_
      rintro value _ rfl
      exact .literal value
  | param =>
      refine SameOutcome.map (read_alike each <|
        required_alike each fun _ _ _ letters twins =>
          twins.held_of_param letters) ?_
      exact fun _ _ held => .param held
  | call => exact call_alike each
  | cast => exact conversion_alike each (by decide) fun _ _ => .cast
  | blob => exact conversion_alike each (by decide) fun _ _ => .blob
  | fragment => exact fragment_alike each
  | compare => exact comparison_alike each
  | and => exact junction_alike each (by decide) fun _ _ _ _ => .and
  | or =>
      exact junction_alike each (by decide)
        fun first other rest others _ => .or first other rest others
  | not =>
      refine SameOutcome.map (read_alike each <|
        required_plain each (by decide) fun _ _ twins => twins.operand) ?_
      exact fun operand other _ => .not operand other
  | membership => exact membership_alike each
  | nullCheck => exact nullCheck_alike each

end NodeKind

theorem ReadAlike.mapping {entries others : List (Value × Value)}
    (each : List.Forall₂ (Value.EntryTwins related alone) entries others) :
    ReadAlike related alone (.mapping entries) (.mapping others) := by
  have same : Record.announced? NodeKind.announcements others =
      Record.announced? NodeKind.announcements entries := by
    unfold Record.announced?
    simp only [has_eq each]
  unfold ReadAlike
  rw [Expr.ofValue, Expr.ofValue, Expr.ofParts, Expr.ofParts,
    NodeKind.ofEntries?_eq, NodeKind.ofEntries?_eq, same]
  cases Record.announced? NodeKind.announcements entries with
  | none => trivial
  | some kind => exact (NodeKind.read_twins each kind).under _

/-! ## Expressions that are alike -/

section Memberships

variable {value other : Value}

private theorem someOperands_of_items {first : Value} {rest : List Value}
    (listed : value.items? = some (first :: rest)) :
    (Part.of value).someOperands =
      ((Expr.ofValue first).under (.position 0)).both
        (Reading.items 1 (rest.map Expr.ofValue)) := by
  rw [Part.someOperands, Part.elements_of, Value.elements?, listed]
  rfl

private theorem someOperands_of_no_items (noItems : value.items? = none) :
    ∃ issues, (Part.of value).someOperands = .error issues := by
  rw [Part.someOperands, Part.elements_of, Value.elements?, noItems,
    Option.none_or]
  cases value.fields? with
  | none => exact ⟨_, rfl⟩
  | some fields =>
      cases fields with
      | nil => exact ⟨_, rfl⟩
      | cons field fields =>
          simp only [Option.map_some, List.map_cons]
          cases Reading.items 1 _ <;> exact ⟨_, rfl⟩

private theorem memberships_of_single
    {operand further single otherSingle : Value}
    (listed : value.items? = some [operand, single])
    (otherListed : other.items? = some [further, otherSingle])
    (operands : ReadAlike related false operand further)
    (values : ReadAlike related true single otherSingle) :
    MembershipsAlike related value other := by
  rw [MembershipsAlike, someOperands_of_items listed,
    someOperands_of_items otherListed]
  have none : SameOutcome (fun result other : List Expr =>
      result = [] ∧ other = []) (Reading.items 2 []) (Reading.items 2 []) :=
    ⟨rfl, rfl⟩
  have single : SameOutcome (fun result other : List Expr =>
      ∃ value further, result = [value] ∧ other = [further] ∧
        Expr.Twins related true value further)
      (Reading.items 1 [Expr.ofValue single])
      (Reading.items 1 [Expr.ofValue otherSingle]) := by
    refine SameOutcome.map ((SameOutcome.under values _).both none) ?_
    rintro ⟨result, _⟩ ⟨other, _⟩ ⟨twins, rfl, rfl⟩
    exact ⟨result, other, rfl, rfl, twins⟩
  refine ((SameOutcome.under operands _).both single).imp ?_
  rintro ⟨result, _⟩ ⟨other, _⟩ ⟨twins, _, _, rfl, rfl, values⟩
  exact twins.single_layouts values

private theorem memberships_of_several
    (several : ∀ operand single, value.items? ≠ some [operand, single])
    (twins : Value.Twins related false value other) :
    MembershipsAlike related value other := by
  refine twins.someOperands.and_ok.imp ?_
  rintro ⟨result, results⟩ ⟨further, furthers⟩ ⟨⟨operands, values⟩, done⟩
  refine operands.membership_layouts values ?_
  intro single
  cases listed : value.items? with
  | none =>
      obtain ⟨_, refused⟩ := someOperands_of_no_items listed
      cases refused.symm.trans done
  | some items =>
      cases items with
      | nil =>
          rw [Part.someOperands, Part.elements_of, Value.elements?, listed]
            at done
          cases done
      | cons first rest =>
          rw [someOperands_of_items listed] at done
          have read := Reading.items_eq_ok.mp (Reading.both_eq_ok.mp done).2
          have length := congrArg List.length read
          rw [List.length_map, List.length_map, single] at length
          obtain ⟨second, rfl⟩ := List.length_eq_one_iff.mp length
          exact several first second listed

end Memberships

theorem Expr.Alike.fields_length {operand other : Expr}
    (alike : Expr.Alike related alone operand other) :
    operand.fields.length = other.fields.length := by
  cases alike <;> rfl

theorem Value.Twins.of_plain {value : Value} (isPlain : value.isPlain = true) :
    Value.Twins related alone value value := by
  refine ⟨?_, ?_, rfl, .refl Part.SameTemplate.refl _, .inl rfl⟩
  · cases value <;> trivial
  · cases value <;> first | exact .none | cases isPlain

private theorem unread_of_items {value : Value} {items : List Value}
    (listed : value.items? = some items) :
    (∃ issues, Expr.ofValue value = .error issues) ∧
      (∃ issues, (Part.of value).template = .error issues) ∧
      value.fields? = none ∧ value.isPlain = false := by
  cases value <;> cases listed <;> exact ⟨⟨_, rfl⟩, ⟨_, rfl⟩, rfl, rfl⟩

theorem Value.Twins.of_items {value other : Value} {items others : List Value}
    (listed : value.items? = some items)
    (otherListed : other.items? = some others)
    (each : List.Forall₂ (ReadAlike related false) items others) :
    Value.Twins related alone value other := by
  obtain ⟨⟨_, unread⟩, ⟨_, noText⟩, noFields, notPlain⟩ :=
    unread_of_items listed
  obtain ⟨⟨_, otherUnread⟩, ⟨_, otherNoText⟩, otherNoFields, otherNotPlain⟩ :=
    unread_of_items otherListed
  refine ⟨?_, ?_, by rw [noFields, otherNoFields], ?_,
    .inr ⟨notPlain, otherNotPlain⟩⟩
  · rw [ReadAlike, unread, otherUnread]
    trivial
  · rw [listed, otherListed]
    exact .some each
  · rw [noText, otherNoText]
    trivial

theorem Value.Twins.of_mapping {entries others : List (Value × Value)}
    (each : List.Forall₂ (Value.EntryTwins related alone) entries others) :
    Value.Twins related alone (.mapping entries) (.mapping others) := by
  refine ⟨.mapping each, .none, rfl, ?_, .inr ⟨rfl, rfl⟩⟩
  have same := keywordIssues_eq each
  by_cases sound : Part.keywordIssues entries = []
  · rw [Part.template_of_mapping sound,
      Part.template_of_mapping (same.trans sound)]
    exact .keywords _ _
  · obtain ⟨_, refused⟩ := Part.template_of_mapping_eq_error sound
    obtain ⟨_, otherRefused⟩ := Part.template_of_mapping_eq_error
      (fun none => sound (same.symm.trans none))
    rw [refused, otherRefused]
    trivial

-- The recursion is over how two expressions are alike.  A membership with a
-- single value is the one place where the flag is raised, so it is not a case
-- of the lists.
mutual

theorem Expr.Alike.twins {alone : Bool} {operand other : Expr} :
    Expr.Alike related alone operand other →
      Expr.Twins related alone operand other
  | .column name => .column name
  | .literal value => .literal value
  | .param held => .param held
  | .call each => .call _ each.twins
  | .cast operands => .cast _ operands.twins
  | .blob operands => .blob _ operands.twins
  | .fragment each => .fragment _ each.read
  | .keywords => .keywords _ _ _ _
  | .compare lefts rights => .compare _ lefts.twins rights.twins
  | .and firsts each => .and (.cons firsts.twins each.twins)
  | .or _ _ => .or _ _ _ _
  | .not _ => .not _ _
  | .single operands values =>
      .other rfl rfl (operands.twins.single_layouts values.twins)
  | .membership operands each several =>
      .other rfl rfl (operands.twins.membership_layouts each.twins several)
  | .nullCheck _ => .nullCheck _ _ _

theorem Expr.ListAlike.twins {operands others : List Expr} :
    Expr.ListAlike related operands others →
      List.Forall₂ (Expr.Twins related false) operands others
  | .nil => .nil
  | .cons first rest => .cons first.twins rest.twins

theorem Value.Alike.twins {alone : Bool} {value other : Value} :
    Value.Alike related alone value other →
      Value.Twins related alone value other
  | .plain isPlain => .of_plain isPlain
  | .expr operands =>
      ⟨operands.twins, .none, congrArg some operands.fields_length, trivial,
        .inr ⟨rfl, rfl⟩⟩
  | .set _ => ⟨trivial, .none, rfl, trivial, .inr ⟨rfl, rfl⟩⟩
  | .increment _ => ⟨trivial, .none, rfl, trivial, .inr ⟨rfl, rfl⟩⟩
  | .orderItem _ => ⟨trivial, .none, rfl, trivial, .inr ⟨rfl, rfl⟩⟩
  | .items listed otherListed each =>
      .of_items listed otherListed each.read
  | .mapping each => .of_mapping each.twins

theorem Value.ListAlike.read {values others : List Value} :
    Value.ListAlike related values others →
      List.Forall₂ (ReadAlike related false) values others
  | .nil => .nil
  | .cons first rest => .cons first.twins.operand rest.read

theorem Value.EntriesAlike.twins {alone : Bool}
    {entries others : List (Value × Value)} :
    Value.EntriesAlike related alone entries others →
      List.Forall₂ (Value.EntryTwins related alone) entries others
  | .nil => .nil
  | .param named held each => .cons (.param named held) each.twins
  | .data named each => .cons (.data named) each.twins
  | .single named listed otherListed operands values each =>
      .cons (.membership named (memberships_of_single listed otherListed
        operands.twins.operand values.twins.operand)) each.twins
  | .membership named several values each =>
      .cons (.membership named (memberships_of_several several values.twins))
        each.twins
  | .other named values each => .cons (.other named values.twins) each.twins

end

end StructuredCql
