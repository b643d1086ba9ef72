import StructuredCql.Proofs.Binding
import StructuredCql.Proofs.Entries
import StructuredCql.Proofs.Grammar.Filter
import StructuredCql.Proofs.Layout.Job
import StructuredCql.Proofs.Outcomes
import StructuredCql.Proofs.Rows
import StructuredCql.Proofs.Spelling.Query

/-!
# Inserted rows

An inserted row has a list of columns and a list of values, which are made one
after the other from the same entries: first the generated key columns, then
the columns that the caller gives.  The main statement is that an insertion
succeeds exactly if something is inserted and all names, kinds and options are
admitted, and that every mark is bound to the value of its own column.

Whether a key column is given is decided by its name as it is spelled, with its
qualifier, and the qualifier is not written.  So a column stands twice where a
key is declared under one spelling and given under another one.
-/

namespace StructuredCql

open StructuredCql.Text Piece

namespace InsertedRow

/-- The declared columns that the row does not name, each where it is declared
first. -/
def generated (declarations row : List (String × Value)) : List String :=
  (declarations.map Prod.fst).eraseDups.filter (· ∉ row.map Prod.fst)

def entries (declarations row : List (String × Value)) :
    List (String × Value) :=
  (generated declarations row).map (·, .now) ++ row

/-- The kind that is declared last for a column. -/
def kind? (declarations : List (String × Value)) (column : String) :
    Option KeyKind :=
  (declarations.reverse.lookup column).bind KeyKind.ofValue?

def valueText (declarations : List (String × Value)) :
    String × Value → String
  | (column, .now) =>
      if kind? declarations column = some .id then "uuid()" else "now()"
  | _ => "?"

/-- The value that an entry binds, if it is not left to the cluster. -/
def bound? : String × Value → Option Value
  | (_, .now) => none
  | (_, value) => some value

def columns (declarations row : List (String × Value)) : List String :=
  (entries declarations row).map fun entry => unqualified entry.1

def values (declarations row : List (String × Value)) : List String :=
  (entries declarations row).map (valueText declarations)

def text (table : String) (columns values : List String) : String :=
  "INSERT INTO " ++ table ++ " (" ++ joined ", " columns ++ ") VALUES (" ++
    joined ", " values ++ ")"

end InsertedRow

/-! ## Declared keys -/

section DeclaredKeys

variable {declarations : List (String × Value)}
  {keys : List (String × KeyKind)}

private theorem declaredKeys_eq_ok_iff :
    declaredKeys declarations = .ok keys ↔
      ∃ kinds : List (String × KeyKind),
        (declarations.map fun declaration =>
          (declaration.1, KeyKind.ofValue? declaration.2)) =
          (kinds.map fun entry => (entry.1, some entry.2)) ∧
        Entries.ofPairs (· = ·) kinds = keys := by
  constructor
  · intro made
    obtain ⟨kinds, each, made⟩ := bind_eq_ok_iff.mp made
    cases made
    refine ⟨kinds, ?_, rfl⟩
    rw [← List.forall₂_eq_eq_eq, List.forall₂_map_left_iff,
      List.forall₂_map_right_iff]
    refine (mapM_eq_ok_iff.mp each).imp fun declaration entry read => ?_
    split at read
    · next kind found =>
      cases read
      rw [found]
    · cases read
  · rintro ⟨kinds, each, rfl⟩
    rw [← List.forall₂_eq_eq_eq, List.forall₂_map_left_iff,
      List.forall₂_map_right_iff] at each
    refine bind_eq_ok_iff.mpr ⟨kinds, mapM_eq_ok_iff.mpr
      (each.imp fun declaration entry same => ?_), rfl⟩
    obtain ⟨name, kind⟩ := Prod.mk.inj same
    rw [kind, name]

theorem exists_declaredKeys_iff :
    (∃ keys, declaredKeys declarations = .ok keys) ↔
      ∀ declaration ∈ declarations,
        (KeyKind.ofValue? declaration.2).isSome := by
  constructor
  · rintro ⟨keys, declared⟩
    obtain ⟨kinds, each, _⟩ := declaredKeys_eq_ok_iff.mp declared
    intro declaration member
    have isRead : (declaration.1, KeyKind.ofValue? declaration.2) ∈
        kinds.map fun entry => (entry.1, some entry.2) :=
      each ▸ List.mem_map.mpr ⟨declaration, member, rfl⟩
    obtain ⟨entry, _, same⟩ := List.mem_map.mp isRead
    rw [← (Prod.mk.inj same).2]
    rfl
  · intro valid
    refine ⟨_, declaredKeys_eq_ok_iff.mpr
      ⟨declarations.filterMap fun declaration =>
        (KeyKind.ofValue? declaration.2).map (declaration.1, ·), ?_, rfl⟩⟩
    induction declarations with
    | nil => rfl
    | cons declaration rest ih =>
        rw [List.forall_mem_cons] at valid
        obtain ⟨kind, found⟩ := Option.isSome_iff_exists.mp valid.1
        rw [List.map_cons, ih valid.2]
        simp [found]

theorem keys_of_declaredKeys (declared : declaredKeys declarations = .ok keys) :
    keys.map Prod.fst = (declarations.map Prod.fst).eraseDups := by
  obtain ⟨kinds, each, rfl⟩ := declaredKeys_eq_ok_iff.mp declared
  have names := congrArg (List.map Prod.fst) each
  simp only [List.map_map, Function.comp_def] at names
  rw [Entries.keys_ofPairs, names]

theorem lookup_of_declaredKeys (declared : declaredKeys declarations = .ok keys)
    (column : String) :
    keys.lookup column = InsertedRow.kind? declarations column := by
  obtain ⟨kinds, each, rfl⟩ := declaredKeys_eq_ok_iff.mp declared
  have found := congrArg (fun pairs => pairs.reverse.lookup column) each
  simp only [← List.map_reverse, Entries.lookup_map_snd] at found
  have joined := congrArg (·.bind id) found
  rw [Entries.lookup_ofPairs, InsertedRow.kind?]
  simpa [Option.bind_map, Function.comp_def] using joined.symm

end DeclaredKeys

namespace InsertedRow

variable {declarations row : List (String × Value)}
  {keys : List (String × KeyKind)}

/-! ## The layout of an insertion -/

theorem insertedColumns_eq (declared : declaredKeys declarations = .ok keys)
    (row : List (String × Value)) :
    insertedColumns keys row = entries declarations row := by
  rw [insertedColumns, entries, generated, ← keys_of_declaredKeys declared,
    List.filter_map, List.map_map]
  have absent : ∀ key : String × KeyKind,
      (!row.any (·.1 = key.1)) = decide (key.1 ∉ row.map Prod.fst) := by
    intro key
    rw [Bool.eq_iff_iff]
    simp only [Bool.not_eq_true', List.any_eq_false, decide_eq_true_eq,
      List.mem_map, not_exists, not_and]
  simp only [absent, Function.comp_def]

theorem written_insertedLayout (declared : declaredKeys declarations = .ok keys)
    (entry : String × Value) :
    written "?" (insertedLayout keys entry.1 entry.2) =
      valueText declarations entry := by
  obtain ⟨column, value⟩ := entry
  cases value with
  | now =>
      rw [insertedLayout, valueText, lookup_of_declaredKeys declared]
      rcases kind? declarations column with _ | (_ | _) <;> rfl
  | _ => rfl

theorem carried_insertedLayout (keys : List (String × KeyKind))
    (entry : String × Value) :
    carried (insertedLayout keys entry.1 entry.2) = (bound? entry).toList := by
  obtain ⟨column, value⟩ := entry
  cases value <;> rfl

theorem filterMap_bound?_entries (declarations row : List (String × Value)) :
    (entries declarations row).filterMap bound? = row.filterMap bound? := by
  have none_bound : ((generated declarations row).map (·, Value.now)).filterMap
      bound? = [] := by
    rw [List.filterMap_eq_nil_iff]
    rintro _ member
    obtain ⟨column, _, rfl⟩ := List.mem_map.mp member
    rfl
  rw [entries, List.filterMap_append, none_bound, List.nil_append]

theorem carried_body (table : String) (keys : List (String × KeyKind))
    (declarations row : List (String × Value)) :
    carried (insertBody table keys (entries declarations row)) =
      row.filterMap bound? := by
  rw [← filterMap_bound?_entries declarations row,
    List.filterMap_eq_flatMap_toList]
  simp [insertBody, List.flatMap_map, carried_insertedLayout]

theorem written_body (declared : declaredKeys declarations = .ok keys)
    (table : String) (row : List (String × Value))
    (sound : nameFlaws (entries declarations row) = []) :
    written "?" (insertBody table keys (entries declarations row)) =
      text table (columns declarations row) (values declarations row) := by
  have names : ((entries declarations row).map fun entry =>
      written "?" [ofText (columnName entry.1)]) =
        columns declarations row := by
    refine List.map_congr_left fun entry member => ?_
    rw [nameFlaws_eq_nil_iff.mp sound entry member]
    simp [ofText, written, textWith]
  have texts : ((entries declarations row).map fun entry =>
      written "?" (insertedLayout keys entry.1 entry.2)) =
        values declarations row :=
    List.map_congr_left fun entry _ => written_insertedLayout declared entry
  simp only [insertBody, written_append, written_plain_cons, written_separated,
    List.map_map, Function.comp_def, names, texts]
  delta text
  simp only [String.append_assoc]
  rfl

theorem valueText_eq_mark_iff {entry : String × Value} :
    valueText declarations entry = "?" ↔ (bound? entry).isSome := by
  obtain ⟨column, value⟩ := entry
  cases value with
  | now =>
      rw [valueText]
      split <;> exact iff_of_false (by decide) Bool.false_ne_true
  | _ => exact iff_of_true rfl rfl

/-- As many values are bound before a mark as there are marks before it. -/
theorem bound_at_mark (declarations : List (String × Value))
    {entries : List (String × Value)} {position : Nat}
    {entry : String × Value} {value : Value}
    (found : entries[position]? = some entry)
    (binds : bound? entry = some value) :
    (entries.filterMap bound?)[((entries.map
      (valueText declarations)).take position).count "?"]? = some value := by
  -- the place moves along with the entries, and so does the count before it
  induction entries generalizing position with
  | nil => simp at found
  | cons first rest ih =>
      cases position with
      | zero =>
          obtain rfl : first = entry := by simpa using found
          simp [binds]
      | succ position =>
          have further := ih (by simpa using found)
          rw [List.map_cons, List.take_succ_cons, List.count_cons]
          cases firstBinds : bound? first with
          | none =>
              have notMark : valueText declarations first ≠ "?" := by
                rw [ne_eq, valueText_eq_mark_iff, firstBinds]
                simp
              simpa [firstBinds, notMark] using further
          | some other =>
              have isMark : valueText declarations first = "?" := by
                rw [valueText_eq_mark_iff, firstBinds]
                rfl
              simpa [firstBinds, isMark] using further

end InsertedRow

/-! ## Insertions -/

section Requests

variable {fields declared : Row} {row declarations : List (String × Value)}
  (named : Row.Named fields row) (keysNamed : Row.Named declared declarations)
  {keyspace table : Value} {options : Options} {statement : Statement}

include named keysNamed

theorem insertRow_eq_ok_iff :
    insertRow keyspace table fields declared options = .ok statement ↔
      InsertedRow.entries declarations row ≠ [] ∧
        (∀ declaration ∈ declarations,
          (KeyKind.ofValue? declaration.2).isSome) ∧
        (∀ entry ∈ InsertedRow.entries declarations row,
          columnName entry.1 = .ok (unqualified entry.1)) ∧
        ∃ name suffix, targetTable keyspace table = .ok name ∧
          options.guardText? .insert = some suffix ∧
          statement = ⟨.insert,
            InsertedRow.text name (InsertedRow.columns declarations row)
              (InsertedRow.values declarations row) ++ suffix,
            row.filterMap InsertedRow.bound?, options⟩ := by
  constructor
  · intro made
    obtain ⟨requested, guard, made⟩ := bind_eq_ok_iff.mp made
    obtain ⟨_, read, made⟩ := bind_eq_ok_iff.mp made
    obtain rfl := Except.ok.inj ((Row.named_eq_ok named).symm.trans read)
    obtain ⟨_, read, made⟩ := bind_eq_ok_iff.mp made
    obtain rfl := Except.ok.inj ((Row.named_eq_ok keysNamed).symm.trans read)
    obtain ⟨keys, kinds, made⟩ := bind_eq_ok_iff.mp made
    dsimp only at made
    have kinds := orRefuse_eq_ok.mp kinds
    rw [InsertedRow.insertedColumns_eq kinds] at made
    split at made
    · cases made
    · next nonempty =>
      obtain ⟨name, target, made⟩ := bind_eq_ok_iff.mp made
      have made := orRefuse_eq_ok.mp made
      rw [insertText_eq] at made
      obtain ⟨sound, suffix, admitted, rfl⟩ :=
        (Options.exists_guarded_iff (by decide)).mp
          ⟨requested, orRefuse_eq_ok.mp guard, made⟩
      rw [Piece.flaws_insertBody] at sound
      refine ⟨by simpa using nonempty, exists_declaredKeys_iff.mp ⟨keys, kinds⟩,
        nameFlaws_eq_nil_iff.mp sound, name, suffix, target, admitted, ?_⟩
      rw [← InsertedRow.written_body kinds name row sound,
        ← InsertedRow.carried_body name keys declarations row]
  · rintro ⟨nonempty, valid, accepted, name, suffix, target, admitted, rfl⟩
    obtain ⟨keys, kinds⟩ := exists_declaredKeys_iff.mpr valid
    have sound := nameFlaws_eq_nil_iff.mpr accepted
    rw [← InsertedRow.written_body kinds name row sound,
      ← InsertedRow.carried_body name keys declarations row]
    rw [← Piece.flaws_insertBody name keys] at sound
    obtain ⟨requested, guard, made⟩ :=
      (Options.exists_guarded_iff (by decide)).mpr
        ⟨sound, suffix, admitted, rfl⟩
    refine bind_eq_ok_iff.mpr ⟨_, orRefuse_eq_ok.mpr guard,
      bind_eq_ok_iff.mpr ⟨_, Row.named_eq_ok named,
        bind_eq_ok_iff.mpr ⟨_, Row.named_eq_ok keysNamed,
          bind_eq_ok_iff.mpr ⟨_, orRefuse_eq_ok.mpr kinds, ?_⟩⟩⟩⟩
    dsimp only
    rw [InsertedRow.insertedColumns_eq kinds, if_neg (by simpa using nonempty)]
    refine bind_eq_ok_iff.mpr ⟨_, target, orRefuse_eq_ok.mpr ?_⟩
    rw [insertText_eq]
    exact made

/-- A mark among the values is bound to the value of the column at the same
place, and all other values are made by the cluster.  An insertion succeeds if
and only if it has a column and nothing is wrong with what it is made from. -/
theorem insertRow_aligned (keyspace table : Value) (options : Options) :
    (∀ statement,
      insertRow keyspace table fields declared options = .ok statement →
      ∃ name suffix, targetTable keyspace table = .ok name ∧
        options.guardText? .insert = some suffix ∧
        statement = ⟨.insert,
          InsertedRow.text name (InsertedRow.columns declarations row)
            (InsertedRow.values declarations row) ++ suffix,
          row.filterMap InsertedRow.bound?, options⟩ ∧
        (InsertedRow.columns declarations row).length =
          (InsertedRow.values declarations row).length ∧
        ∀ position entry value,
          (InsertedRow.entries declarations row)[position]? = some entry →
          InsertedRow.bound? entry = some value →
          (InsertedRow.values declarations row)[position]? = some "?" ∧
            statement.params[((InsertedRow.values declarations row).take
              position).count "?"]? = some value) ∧
    ((∃ statement,
        insertRow keyspace table fields declared options = .ok statement) ↔
      InsertedRow.entries declarations row ≠ [] ∧
        (∀ declaration ∈ declarations,
          (KeyKind.ofValue? declaration.2).isSome) ∧
        (∃ name, targetTable keyspace table = .ok name) ∧
        (∀ entry ∈ InsertedRow.entries declarations row,
          ∃ column, columnName entry.1 = .ok column) ∧
        (options.guardText? .insert).isSome) := by
  refine ⟨?_, ?_, ?_⟩
  · intro statement made
    obtain ⟨_, _, _, name, suffix, target, admitted, rfl⟩ :=
      (insertRow_eq_ok_iff named keysNamed).mp made
    refine ⟨name, suffix, target, admitted, rfl, ?_, ?_⟩
    · rw [InsertedRow.columns, InsertedRow.values, List.length_map,
        List.length_map]
    · intro position entry value found binds
      refine ⟨?_, ?_⟩
      · rw [InsertedRow.values, List.getElem?_map, found, Option.map_some,
          InsertedRow.valueText_eq_mark_iff.mpr (by rw [binds]; rfl)]
      · rw [← InsertedRow.filterMap_bound?_entries declarations row]
        exact InsertedRow.bound_at_mark declarations found binds
  · rintro ⟨statement, made⟩
    obtain ⟨nonempty, valid, accepted, name, suffix, target, admitted, _⟩ :=
      (insertRow_eq_ok_iff named keysNamed).mp made
    exact ⟨nonempty, valid, ⟨name, target⟩,
      fun entry member => ⟨_, accepted entry member⟩,
      Option.isSome_iff_exists.mpr ⟨suffix, admitted⟩⟩
  · rintro ⟨nonempty, valid, ⟨name, target⟩, accepted, admitted⟩
    obtain ⟨suffix, admitted⟩ := Option.isSome_iff_exists.mp admitted
    refine ⟨_, (insertRow_eq_ok_iff named keysNamed).mpr
      ⟨nonempty, valid, ?_, name, suffix, target, admitted, rfl⟩⟩
    intro entry member
    obtain ⟨column, found⟩ := accepted entry member
    rw [found, eq_unqualified_of_columnName found]

end Requests

def visitKeys : List (String × Value) :=
  [("id", .text "id"), ("at", .text "id"), ("id", .text "binary_id")]

def visitColumns : List (String × Value) :=
  [("v.user", .int 7), ("at", .now), ("note", .null)]

def ifNotExists : Options := [(.text "if", .text "not_exists")]

def visitText : String :=
  "INSERT INTO app.visits (id, user, at, note) " ++
    "VALUES (now(), ?, uuid(), ?) IF NOT EXISTS"

theorem insertRow_visit :
    insertRow (.text "app") (.text "visits") (Record.texts visitColumns)
        (Record.texts visitKeys) ifNotExists =
      .ok ⟨.insert, visitText, [.int 7, .null], ifNotExists⟩ := by cbv

theorem insertRow_aligned_visit :
    (InsertedRow.values visitKeys visitColumns)[3]? = some "?" ∧
      [Value.int 7, .null][((InsertedRow.values visitKeys visitColumns).take
        3).count "?"]? = some .null := by
  have aligned := (insertRow_aligned (Row.named_texts visitColumns)
    (Row.named_texts visitKeys) (.text "app") (.text "visits")
    ifNotExists).1 _ insertRow_visit
  obtain ⟨_, _, _, _, _, _, marks⟩ := aligned
  exact marks 3 ("note", .null) .null rfl rfl

/-! ## Repeated columns -/

namespace InsertedRow

/-- No column stands twice, and exactly those keys are generated whose columns
the row does not give. -/
structure NamesOnce (declarations row : List (String × Value)) : Prop where
  nodup : (columns declarations row).Nodup
  generated_iff : ∀ declaration ∈ declarations,
    declaration.1 ∈ generated declarations row ↔
      unqualified declaration.1 ∉ row.map fun entry => unqualified entry.1

variable {declarations row : List (String × Value)}

theorem columns_eq_append (declarations row : List (String × Value)) :
    columns declarations row =
      (generated declarations row).map unqualified ++
        row.map fun entry => unqualified entry.1 := by
  simp [columns, entries, Function.comp_def]

theorem mem_generated_iff {column : String} :
    column ∈ generated declarations row ↔
      column ∈ declarations.map Prod.fst ∧ column ∉ row.map Prod.fst := by
  rw [generated, List.mem_filter, List.mem_eraseDups, decide_eq_true_eq]

theorem namesOnce_iff
    (different : (row.map fun entry => unqualified entry.1).Nodup) :
    NamesOnce declarations row ↔
      ((generated declarations row).map unqualified).Nodup ∧
        ∀ declaration ∈ declarations,
          (unqualified declaration.1 ∈
            row.map fun entry => unqualified entry.1) →
          declaration.1 ∈ row.map Prod.fst := by
  constructor
  · rintro ⟨nodup, missing⟩
    rw [columns_eq_append, List.nodup_append] at nodup
    refine ⟨nodup.1, fun declaration member given => ?_⟩
    by_contra unspelled
    exact (missing declaration member).mp (mem_generated_iff.mpr
      ⟨List.mem_map_of_mem member, unspelled⟩) given
  · rintro ⟨keysDiffer, spelled⟩
    have missing : ∀ declaration ∈ declarations,
        declaration.1 ∈ generated declarations row →
        unqualified declaration.1 ∉
          row.map fun entry => unqualified entry.1 :=
      fun declaration member isGenerated given =>
        (mem_generated_iff.mp isGenerated).2 (spelled declaration member given)
    refine ⟨?_, fun declaration member =>
      ⟨missing declaration member, fun absent => ?_⟩⟩
    · rw [columns_eq_append, List.nodup_append]
      refine ⟨keysDiffer, different, ?_⟩
      rintro _ isKey _ given rfl
      obtain ⟨key, isGenerated, rfl⟩ := List.mem_map.mp isKey
      obtain ⟨declaration, member, rfl⟩ :=
        List.mem_map.mp (mem_generated_iff.mp isGenerated).1
      exact missing declaration member isGenerated given
    · refine mem_generated_iff.mpr ⟨List.mem_map_of_mem member, fun given => ?_⟩
      obtain ⟨entry, isEntry, same⟩ := List.mem_map.mp given
      exact absent (List.mem_map.mpr ⟨entry, isEntry, by rw [same]⟩)

end InsertedRow

/-- Where the columns of a row are different, an insertion names no column
twice and generates exactly the missing keys if and only if the generated keys
are different columns and no key is given under another spelling. -/
theorem insertRow_namesOnce_iff {fields declared : Row}
    {row declarations : List (String × Value)}
    (named : Row.Named fields row)
    (keysNamed : Row.Named declared declarations)
    {keyspace table : Value} {options : Options} {statement : Statement}
    (made : insertRow keyspace table fields declared options =
      .ok statement)
    (different : (row.map fun entry => unqualified entry.1).Nodup) :
    ∃ name suffix,
      statement.text = InsertedRow.text name
        (InsertedRow.columns declarations row)
        (InsertedRow.values declarations row) ++ suffix ∧
      (InsertedRow.NamesOnce declarations row ↔
        ((InsertedRow.generated declarations row).map unqualified).Nodup ∧
          ∀ declaration ∈ declarations,
            (unqualified declaration.1 ∈
              row.map fun entry => unqualified entry.1) →
            declaration.1 ∈ row.map Prod.fst) := by
  obtain ⟨_, _, _, name, suffix, _, _, rfl⟩ :=
    (insertRow_eq_ok_iff named keysNamed).mp made
  exact ⟨name, suffix, rfl, InsertedRow.namesOnce_iff different⟩

theorem insertRow_namesOnce_iff_visit :
    InsertedRow.NamesOnce visitKeys visitColumns := by
  have different : (visitColumns.map fun entry =>
      unqualified entry.1).Nodup := by decide
  obtain ⟨_, _, _, once_iff⟩ := insertRow_namesOnce_iff
    (Row.named_texts visitColumns) (Row.named_texts visitKeys)
    insertRow_visit different
  exact once_iff.mpr ⟨by decide, by decide⟩

theorem insertRow_qualifiedKey :
    insertRow .null (.text "t") (Record.texts [("u.id", .int 1)])
        (Record.texts [("id", .text "id")]) [] =
      .ok ⟨.insert, "INSERT INTO t (id, id) VALUES (uuid(), ?)", [.int 1],
        []⟩ ∧
    ¬InsertedRow.NamesOnce [("id", .text "id")] [("u.id", .int 1)] := by
  refine ⟨by cbv, fun once => ?_⟩
  exact absurd once.nodup (by decide)

end StructuredCql
