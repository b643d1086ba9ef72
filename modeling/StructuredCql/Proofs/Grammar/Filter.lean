import Mathlib
import StructuredCql.Proofs.Flaws
import StructuredCql.Proofs.Grammar.Skeleton

/-!
# Unique readability of filters

Terms are columns, constants, marks and functions of terms; relations compare
terms, look one up among others, or are terms themselves; filters join
relations.  The main statement is that the skeleton of a filter is read back
from its text, whatever its columns, types and constants are called.
-/

namespace StructuredCql

open StructuredCql.Text

namespace Expr

inductive IsTerm : Expr → Prop
  | column (name : String) : IsTerm (.column name)
  | literal (value : Value) : IsTerm (.literal value)
  | param (value : Value) : IsTerm (.param value)
  | call (function : CqlFunction) {args : List Expr} :
      (∀ arg ∈ args, IsTerm arg) → IsTerm (.call function args)
  | cast {operand : Expr} (typeName : String) :
      IsTerm operand → IsTerm (.cast operand typeName)
  | blob {operand : Expr} (typeName : String) :
      IsTerm operand → IsTerm (.blob operand typeName)

/-- A list that is the only value of a membership is a term as well. -/
inductive IsRelation : Expr → Prop
  | bare {operand : Expr} : IsTerm operand → IsRelation operand
  | compare (comparison : Comparison) {left right : Expr} :
      IsTerm left → IsTerm right → IsRelation (.compare comparison left right)
  | membership {operand : Expr} {values : List Expr} :
      IsTerm operand → (∀ value ∈ values, IsTerm value) →
      IsRelation (.membership operand values)

inductive IsFilter : Expr → Prop
  | relation {operand : Expr} : IsRelation operand → IsFilter operand
  | and {first : Expr} {rest : List Expr} :
      IsFilter first → (∀ operand ∈ rest, IsFilter operand) →
      IsFilter (.and first rest)

end Expr

/-! ## Skeletons -/

/-- The name behind the first point, or the whole name. -/
def unqualified (name : String) : String :=
  match name.toList.dropWhile (· != '.') with
  | [] => name
  | _ :: column => String.ofList column

def Value.constantText (value : Value) : String :=
  match value.constant with
  | .ok written => written
  | .error _ => ""

namespace Expr

def term : Expr → Term
  | .column name => .atom (unqualified name)
  | .literal value => .atom value.constantText
  | .param _ => .atom "?"
  | .call function args => .call function.name (args.map term)
  | .cast operand typeName => .cast operand.term typeName
  | .blob operand typeName => .blob typeName operand.term
  | _ => .atom ""
termination_by operand => operand.weight
decreasing_by
  · exact weight_lt_of_mem_parts ‹_›
  · simp only [weight]
    omega
  · simp only [weight]
    omega

def itemTerms (values : List Expr) : List Term :=
  match Membership.ofValues values with
  | .empty => []
  | .bound items => items.map fun _ => .atom "?"
  | .inlined items => items.map fun item => .atom item.constantText
  | .each => values.map term

def conjunct : Expr → Conjunct
  | .compare comparison left right =>
      .compare comparison left.term right.term
  | .membership operand values =>
      .membership operand.term (itemTerms values)
  | operand => .bare operand.term

/-- The relations of a filter, those of joined filters among them. -/
def relations : Expr → List Expr
  | .and first rest => first.relations ++ rest.flatMap relations
  | operand => [operand]
termination_by operand => operand.weight
decreasing_by
  · simp only [weight]
    omega
  · exact weight_lt_of_mem_parts (List.mem_cons_of_mem first ‹_›)

def skeleton (filter : Expr) : Skeleton := filter.relations.map conjunct

def markedText (operand : Expr) : String :=
  Piece.written "?" operand.layout

end Expr

/-! ## Texts of terms -/

theorem Piece.written_plain_cons (placeholder text : String)
    (rest : List Piece) :
    written placeholder (.plain text :: rest) =
      text ++ written placeholder rest := rfl

theorem Piece.written_separated (placeholder separator : String)
    (layouts : List (List Piece)) :
    written placeholder (separated separator layouts) =
      joined separator (layouts.map (written placeholder)) := by
  induction layouts using separated.induct with
  | case1 => rfl
  | case2 pieces => rfl
  | case3 pieces next rest ih =>
      rw [separated, written_append, written, ih]
      simp only [textWith, List.map_cons, joined, String.append_assoc]

theorem Piece.written_listed (placeholder : String) (operand : List Piece)
    (items : List (List Piece)) :
    written placeholder (listed operand items) =
      written placeholder operand ++ (" IN (" ++
        (joined "," (items.map (written placeholder)) ++ ")")) := by
  simp only [listed, written_append, written, written_separated, textWith,
    String.append_empty]

theorem eq_unqualified_of_columnName {name text : String}
    (accepted : columnName name = .ok text) : text = unqualified name := by
  unfold columnName at accepted
  unfold unqualified
  cases found : name.toList.dropWhile (· != '.') with
  | nil =>
      simp only [found] at accepted
      exact (checkedName_eq_ok.mp accepted).2
  | cons point column =>
      simp only [found] at accepted
      obtain ⟨_, _, accepted⟩ := bind_eq_ok_iff.mp accepted
      exact (checkedName_eq_ok.mp accepted).2

namespace Term

theorem IsWord.of_bareWord {text : List Char} (word : BareWord text) :
    IsWord text := by
  refine ⟨word.ne_nil, ?_⟩
  intro character member
  have excluded := List.all_eq_true.mp (show
    [' ', ',', '(', ')', '\''].all (fun mark =>
      !isWordCharacter mark && mark ≠ '-') from rfl)
  have notListed : character ∉ [' ', ',', '(', ')', '\''] := by
    intro listed
    have := excluded character listed
    rcases word.isWordCharacter_or_hyphen member with isWord | isHyphen
    · simp [isWord] at this
    · simp [isHyphen] at this
  simp_all [isDelimiter]

theorem reads_of_constant {value : Value} {text : String}
    (accepted : value.constant = .ok text) :
    Reads text.toList (.atom text) := by
  rcases Value.constant_eq_ok accepted with ⟨content, _, rfl⟩ | ⟨_, word⟩
  · exact reads_quotedConstant content
  · have reads := (IsWord.of_bareWord word).reads
    rwa [String.ofList_toList] at reads

theorem reads_ofConstant {value : Value}
    (accepted : refusals value.constant = []) :
    Reads (Piece.written "?" [Piece.ofConstant value]).toList
      (.atom value.constantText) := by
  obtain ⟨text, found⟩ := exists_ok_of_refusals_eq_nil accepted
  simpa [found, Piece.ofConstant, Value.constantText, Piece.written,
    Piece.textWith] using reads_of_constant found

theorem reads_mark : Reads "?".toList (.atom "?") :=
  IsWord.reads ⟨by simp, by simp [isDelimiter]⟩

end Term

namespace Expr

private theorem written_comp_layout :
    Piece.written "?" ∘ layout = markedText := rfl

theorem reads_term {operand : Expr} (isTerm : operand.IsTerm)
    (sound : operand.flaws = []) :
    Term.Reads operand.markedText.toList operand.term := by
  induction isTerm with
  | column name =>
      rw [flaws] at sound
      obtain ⟨text, accepted⟩ := exists_ok_of_refusals_eq_nil sound
      have reads := (Term.IsWord.of_bareWord
        (WordRun.of_columnName accepted).bareWord).reads
      rw [String.ofList_toList] at reads
      rw [term, ← eq_unqualified_of_columnName accepted]
      simpa [markedText, layout, accepted, Piece.ofText, Piece.written,
        Piece.textWith] using reads
  | literal value =>
      rw [flaws] at sound
      rw [markedText, layout, term]
      exact Term.reads_ofConstant sound
  | param value =>
      have reads := Term.reads_mark
      simpa [markedText, layout, term, Piece.written, Piece.textWith] using
        reads
  | @call function args _ ih =>
      rw [flaws, List.flatMap_eq_nil_iff] at sound
      have isWord : Term.IsWord function.name.toList := by
        cases function <;> exact .of_bareWord (WordRun.of_all rfl).bareWord
      have reads := Term.Reads.call isWord
        (by cases function <;> decide) (by cases function <;> decide)
        fun arg member => ih arg member (sound arg member)
      rw [term]
      simpa [markedText, layout, Piece.written, Piece.written_append,
        Piece.written_separated, Piece.textWith, written_comp_layout] using
        reads
  | @cast operand typeName _ ih =>
      rw [flaws, List.append_eq_nil_iff] at sound
      obtain ⟨text, accepted⟩ := exists_ok_of_refusals_eq_nil sound.2
      have isWord := Term.IsWord.of_bareWord
        (WordRun.of_checkedName accepted).bareWord
      have same := (checkedName_eq_ok.mp accepted).2
      have reads := (ih sound.1).cast isWord
      rw [String.ofList_toList, same] at reads
      rw [term]
      simpa [markedText, layout, accepted, same, Piece.ofText,
        Piece.written, Piece.written_append, Piece.textWith] using reads
  | @blob operand typeName _ ih =>
      rw [flaws, List.append_eq_nil_iff, ← refusals_blobFunction] at sound
      obtain ⟨text, accepted⟩ := exists_ok_of_refusals_eq_nil sound.1
      have isWord := Term.IsWord.of_bareWord
        (WordRun.of_blobFunction accepted).bareWord
      have same := (blobFunction_eq_ok.mp accepted).2
      rw [same, String.toList_append] at isWord
      have reads := (ih sound.2).blob isWord
      rw [String.ofList_toList] at reads
      rw [term]
      simpa [markedText, layout, accepted, same, Piece.ofText,
        Piece.written, Piece.written_append, Piece.textWith] using reads

/-! ## Texts of relations and filters -/

theorem reads_conjunct {operand : Expr} (isRelation : operand.IsRelation)
    (sound : operand.flaws = []) :
    Conjunct.Reads operand.markedText.toList operand.conjunct := by
  cases isRelation with
  | bare isTerm =>
      have reads := Conjunct.Reads.bare (reads_term isTerm sound)
      cases isTerm <;> exact reads
  | @compare comparison left right isLeft isRight =>
      rw [flaws, List.append_eq_nil_iff] at sound
      have reads := Conjunct.Reads.compare comparison
        (reads_term isLeft sound.1) (reads_term isRight sound.2)
      simpa [markedText, layout, conjunct, Piece.written,
        Piece.written_append, Piece.textWith] using reads
  | @membership operand values isOperand areValues =>
      rw [flaws] at sound
      rw [conjunct, itemTerms, markedText, layout]
      cases found : Membership.ofValues values with
      | empty =>
          rw [found] at sound
          cases sound
      | bound items =>
          rw [found] at sound
          have reads := Conjunct.Reads.membership (reads_term isOperand sound)
            fun item (_ : item ∈ items) => Term.reads_mark
          simpa [markedText, Piece.written_listed, Piece.written,
            Piece.textWith, Function.comp_def] using reads
      | inlined items =>
          rw [found] at sound
          obtain ⟨operandSound, itemsSound⟩ := List.append_eq_nil_iff.mp sound
          have reads := Conjunct.Reads.membership
            (reads_term isOperand operandSound)
            fun item member => Term.reads_ofConstant
              (List.flatMap_eq_nil_iff.mp itemsSound item member)
          simpa [markedText, Piece.written_listed, Function.comp_def] using
            reads
      | each =>
          rw [found] at sound
          obtain ⟨operandSound, valuesSound⟩ := List.append_eq_nil_iff.mp sound
          have reads := Conjunct.Reads.membership
            (reads_term isOperand operandSound)
            fun value member => reads_term (areValues value member)
              (List.flatMap_eq_nil_iff.mp valuesSound value member)
          rw [Piece.written_listed, List.map_map, written_comp_layout,
            ← markedText]
          simpa using reads

theorem relations_ne_nil (filter : Expr) : filter.relations ≠ [] := by
  induction filter using partInduction with
  | whole filter ih =>
  cases filter with
  | and first rest =>
      rw [relations]
      simp [ih first List.mem_cons_self]
  | _ => simp [relations]

theorem joined_append (separator : String) {first second : List String}
    (left : first ≠ []) (right : second ≠ []) :
    joined separator (first ++ second) =
      joined separator first ++ separator ++ joined separator second := by
  induction first using joined.induct with
  | case1 => exact absurd rfl left
  | case2 text =>
      obtain ⟨next, rest, rfl⟩ := List.exists_cons_of_ne_nil right
      rfl
  | case3 text next rest ih =>
      have further := ih (by simp)
      rw [List.cons_append] at further
      rw [List.cons_append, List.cons_append, joined, further, joined]
      simp only [String.append_assoc]

private theorem joined_relations {items : List Expr}
    (same : ∀ item ∈ items,
      item.markedText = joined " AND " (item.relations.map markedText)) :
    joined " AND " (items.map markedText) =
      joined " AND " ((items.flatMap relations).map markedText) := by
  induction items with
  | nil => rfl
  | cons item items ih =>
      have further := ih fun other member =>
        same other (List.mem_cons_of_mem item member)
      have first := same item List.mem_cons_self
      cases items with
      | nil => simpa [joined] using first
      | cons next items =>
          have left := relations_ne_nil item
          have right : (next :: items).flatMap relations ≠ [] := by
            simp [relations_ne_nil next]
          rw [List.flatMap_cons, List.map_append,
            joined_append " AND " (by simpa using left) (by simpa using right),
            ← further, ← first]
          rfl

theorem markedText_eq_joined (filter : Expr) :
    filter.markedText = joined " AND " (filter.relations.map markedText) := by
  induction filter using partInduction with
  | whole filter ih =>
  cases filter with
  | and first rest =>
      have relations := joined_relations ih
      rw [Expr.relations, ← List.flatMap_cons]
      rw [parts] at relations
      rw [← relations, markedText, layout, Piece.written_separated,
        ← List.map_cons, List.map_map, written_comp_layout]
  | _ => simp [relations, joined]

theorem flaws_eq_nil_of_mem_relations {filter operand : Expr}
    (member : operand ∈ filter.relations) (sound : filter.flaws = []) :
    operand.flaws = [] := by
  induction filter using partInduction with
  | whole filter ih =>
  cases filter with
  | and first rest =>
      have inPart : ∃ part ∈ (Expr.and first rest).parts,
          operand ∈ part.relations := by
        rw [relations] at member
        simpa [parts] using member
      obtain ⟨part, isPart, member⟩ := inPart
      exact ih part isPart member (flaws_eq_nil_of_mem_parts isPart sound)
  | _ =>
      simp only [relations, List.mem_singleton] at member
      rw [member, sound]

theorem isRelation_of_mem_relations {filter operand : Expr}
    (isFilter : filter.IsFilter) (member : operand ∈ filter.relations) :
    operand.IsRelation := by
  induction isFilter with
  | @relation filter isRelation =>
      have single : filter.relations = [filter] := by
        cases isRelation with
        | bare isTerm => cases isTerm <;> simp [relations]
        | _ => simp [relations]
      rw [single] at member
      rw [List.mem_singleton.mp member]
      exact isRelation
  | and _ _ first rest =>
      rw [relations, List.mem_append, List.mem_flatMap] at member
      rcases member with member | ⟨part, isPart, member⟩
      · exact first member
      · exact rest part isPart member

theorem flaws_and_markedText_of_render {operand : Expr} {params : List Value}
    {text : String}
    (built : (operand.render.runWith ⟨"?", params⟩).1 = .ok text) :
    operand.flaws = [] ∧ text = operand.markedText := by
  rw [render_eq_writeAll] at built
  rcases done : (Piece.writeAll operand.layout).runWith ⟨"?", params⟩ with
    ⟨_ | written, binder⟩
  · rw [done] at built
    cases built
  · rw [done] at built
    cases built
    obtain ⟨sound, same, _⟩ := Piece.runWith_writeAll_eq_ok done
    exact ⟨by rw [← flaws_layout, sound], same⟩

theorem read_markedText {filter : Expr} (isFilter : filter.IsFilter)
    (sound : filter.flaws = []) :
    Skeleton.read filter.markedText = some filter.skeleton := by
  rw [markedText_eq_joined]
  exact Skeleton.read_joined (relations_ne_nil filter) fun operand member =>
    reads_conjunct (isRelation_of_mem_relations isFilter member)
      (flaws_eq_nil_of_mem_relations member sound)

/-- The skeleton of a filter is read from its text, so that filters with one
text have one skeleton. -/
theorem read_eq_skeleton_of_render {filter : Expr} {params : List Value}
    {text : String} (isFilter : filter.IsFilter)
    (built : (filter.render.runWith ⟨"?", params⟩).1 = .ok text) :
    Skeleton.read text = some filter.skeleton ∧
      ∀ {other : Expr} {others : List Value}, other.IsFilter →
        (other.render.runWith ⟨"?", others⟩).1 = .ok text →
        other.skeleton = filter.skeleton := by
  obtain ⟨sound, same⟩ := flaws_and_markedText_of_render built
  have read : Skeleton.read text = some filter.skeleton := by
    rw [same, read_markedText isFilter sound]
  refine ⟨read, ?_⟩
  intro other others otherIsFilter otherBuilt
  obtain ⟨otherSound, otherSame⟩ := flaws_and_markedText_of_render otherBuilt
  rw [otherSame, read_markedText otherIsFilter otherSound,
    Option.some.injEq] at read
  exact read

def crowdedFilter : Expr :=
  .and
    (.compare .equal (.column "t.AND") (.literal (.text "a, b) IN ('?')")))
    [.and (.membership (.column "IN") [.param (.list [.int 1, .null])])
      [.call .token [.cast (.column "as") "cast",
        .blob (.literal (.int (-1))) "DESC"]]]

def crowdedText : String :=
  "AND = 'a, b) IN (''?'')' AND IN IN (?,?)" ++
    " AND token(cast(as as cast), DESCAsBlob(-1))"

theorem read_eq_skeleton_of_crowdedFilter :
    Skeleton.read crowdedText =
      some [.compare .equal (.atom "AND") (.atom "'a, b) IN (''?'')'"),
        .membership (.atom "IN") [.atom "?", .atom "?"],
        .bare (.call "token" [.cast (.atom "as") "cast",
          .blob "DESC" (.atom "-1")])] := by
  have isFilter : crowdedFilter.IsFilter := by
    refine .and (.relation (.compare .equal (.column _) (.literal _))) ?_
    simp only [List.forall_mem_singleton]
    refine .and (.relation (.membership (.column _) ?_)) ?_
    · simp only [List.forall_mem_singleton]
      exact .param _
    · simp only [List.forall_mem_singleton]
      refine .relation (.bare (.call .token ?_))
      simp only [List.forall_mem_cons]
      exact ⟨.cast "cast" (.column _), .blob "DESC" (.literal _), by simp⟩
  have built : (crowdedFilter.render.runWith ⟨"?", []⟩).1 =
      .ok crowdedText := by cbv
  have skeleton : crowdedFilter.skeleton =
      [.compare .equal (.atom "AND") (.atom "'a, b) IN (''?'')'"),
        .membership (.atom "IN") [.atom "?", .atom "?"],
        .bare (.call "token" [.cast (.atom "as") "cast",
          .blob "DESC" (.atom "-1")])] := by
    cbv
  rw [← skeleton]
  exact (read_eq_skeleton_of_render isFilter built).1

end Expr

end StructuredCql
