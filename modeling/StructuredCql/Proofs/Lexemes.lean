import Mathlib.Data.List.Chain
import StructuredCql.Proofs.Constants
import StructuredCql.Proofs.Layout

/-!
# Lexemes

A statement is scanned from the left to the right.  An apostrophe opens a
literal; inside it a doubled apostrophe stands for one, and a lone one closes
it.  All other characters are code.  The main statement is that a layout of
quiet pieces is scanned into the lexemes of its pieces.
-/

namespace StructuredCql

inductive Lexeme where
  | code (character : Char)
  | literal (content : String)
deriving DecidableEq, Repr

namespace Lexeme

/-- The lexemes of a text, if it does not end inside a literal.  What has been
read of an open literal goes along. -/
def scan : Option (List Char) → List Char → Option (List Lexeme)
  | none, [] => some []
  | some _, [] => none
  | none, character :: rest =>
      if character = '\'' then scan (some []) rest
      else (scan none rest).map (.code character :: ·)
  | some content, '\'' :: '\'' :: rest => scan (some (content ++ ['\''])) rest
  | some content, '\'' :: rest =>
      (scan none rest).map (.literal (String.ofList content) :: ·)
  | some content, character :: rest =>
      scan (some (content ++ [character])) rest

def literals (lexemes : List Lexeme) : List String :=
  lexemes.filterMap fun lexeme => match lexeme with
    | .code _ => none
    | .literal content => some content

def codes (text : List Char) : List Lexeme := text.map .code

/-- Two neighbours that do not make up the beginning of a comment. -/
def Apart (first second : Lexeme) : Prop :=
  ¬ (first = .code '-' ∧ second = .code '-')

theorem scan_codes_append {text : List Char}
    (noQuote : ∀ character ∈ text, character ≠ '\'') (rest : List Char) :
    scan none (text ++ rest) = (scan none rest).map (codes text ++ ·) := by
  induction text with
  | nil => simp [codes]
  | cons first text ih =>
      have others := ih fun character member =>
        noQuote character (List.mem_cons_of_mem first member)
      have isCode := noQuote first List.mem_cons_self
      rw [List.cons_append, scan, if_neg isCode, others, Option.map_map]
      rfl

theorem scan_open_append (before content rest : List Char)
    (closed : rest.head? ≠ some '\'') :
    scan (some before) (doubleApostrophes content ++ '\'' :: rest) =
      (scan none rest).map
        (.literal (String.ofList (before ++ content)) :: ·) := by
  induction content using doubleApostrophes.induct generalizing before with
  | case1 =>
      rw [doubleApostrophes, List.nil_append, List.append_nil]
      cases rest with
      | nil => rfl
      | cons next rest =>
          have lone : ∀ other, next :: rest ≠ '\'' :: other := by
            simpa using closed
          rw [scan.eq_5 before _ lone]
  | case2 content ih =>
      rw [doubleApostrophes, List.cons_append, List.cons_append, scan, ih]
      simp
  | case3 character content plain ih =>
      rw [doubleApostrophes.eq_3 _ _ plain, List.cons_append, scan, ih]
      · simp
      · exact fun _ same _ => plain same
      · exact plain

theorem scan_quotedConstant_append (content : String) {rest : List Char}
    (closed : rest.head? ≠ some '\'') :
    scan none ((quotedConstant content).toList ++ rest) =
      (scan none rest).map (.literal content :: ·) := by
  have opened := scan_open_append [] content.toList rest closed
  rw [List.nil_append, String.ofList_toList] at opened
  rw [← opened]
  simp [quotedConstant, scan]

end Lexeme

/-! ## Quiet texts -/

/-- Text that is code throughout, without marks, without ends of statements or
quoted names, and without the beginning of a comment. -/
structure QuietText (text : List Char) : Prop where
  nonempty : text ≠ []
  characters : ∀ character ∈ text, character ∉ ['\'', '"', ';', '/', '?']
  apart : (Lexeme.codes text).IsChain Lexeme.Apart
  last : text.getLast? ≠ some '-'

namespace QuietText

theorem of_characters {text : List Char} (nonempty : text ≠ [])
    (characters : ∀ character ∈ text,
      character ∉ ['\'', '"', ';', '/', '?', '-']) : QuietText text := by
  refine ⟨nonempty, ?_, ?_, ?_⟩
  · intro character member
    have := characters character member
    simp_all
  · apply List.Pairwise.isChain
    apply List.pairwise_map.mpr
    apply List.pairwise_of_forall_mem_list
    intro first member _ _ both
    have := characters first member
    simp_all
  · intro last
    have := characters '-' (List.mem_of_getLast? last)
    simp at this

def isCalm (text : List Char) : Bool :=
  !text.isEmpty && text.all fun character =>
    character ∉ ['\'', '"', ';', '/', '?', '-']

theorem of_isCalm {text : List Char} (calm : isCalm text) :
    QuietText text := by
  simp only [isCalm, Bool.and_eq_true, Bool.not_eq_true',
    List.isEmpty_eq_false_iff, List.all_eq_true, decide_eq_true_eq] at calm
  exact of_characters calm.1 calm.2

theorem append {first second : List Char} (left : QuietText first)
    (right : QuietText second) : QuietText (first ++ second) := by
  refine ⟨by simp [left.nonempty], ?_, ?_, ?_⟩
  · intro character member
    rcases List.mem_append.mp member with member | member
    · exact left.characters character member
    · exact right.characters character member
  · rw [Lexeme.codes, List.map_append]
    apply left.apart.append right.apart
    intro lexeme isLast _ _ both
    have := left.last
    rw [both.1, Lexeme.codes, List.getLast?_map] at isLast
    simp_all
  · rw [List.getLast?_append_of_ne_nil _ right.nonempty]
    exact right.last

theorem of_bareWord {text : List Char} (word : BareWord text) :
    QuietText text := by
  have single {character : Char} (isWord : isWordCharacter character) :
      QuietText [character] := by
    apply of_characters (by simp)
    intro other member listed
    rw [List.mem_singleton.mp member] at listed
    have excluded := List.all_eq_true.mp (show
      ['\'', '"', ';', '/', '?', '-'].all (!isWordCharacter ·) from rfl)
    have := excluded character listed
    simp [isWord] at this
  induction word with
  | last isWord => exact single isWord
  | character isWord _ ih => exact (single isWord).append ih
  | @hyphen character rest isWord _ ih =>
      refine ⟨by simp, ?_, ?_, ?_⟩
      · intro other member
        rcases List.mem_cons.mp member with rfl | member
        · decide
        · exact ih.characters other member
      · apply List.IsChain.cons_cons _ ih.apart
        intro both
        cases both.2
        cases isWord
      · rw [List.getLast?_cons_cons]
        exact ih.last

theorem of_columnName {name text : String}
    (written : columnName name = .ok text) : QuietText text.toList :=
  .of_bareWord (WordRun.of_columnName written).bareWord

theorem of_checkedName {role : NameRole} {name text : String}
    (written : checkedName role name = .ok text) : QuietText text.toList :=
  .of_bareWord (WordRun.of_checkedName written).bareWord

theorem of_blobFunction {typeName text : String}
    (written : blobFunction typeName = .ok text) : QuietText text.toList :=
  .of_bareWord (WordRun.of_blobFunction written).bareWord

theorem of_tableName {source : Source} {text : String}
    (written : source.tableName = .ok text) : QuietText text.toList :=
  .of_bareWord (WordRun.of_tableName written).bareWord

end QuietText

/-! ## The lexemes of a layout -/

namespace Piece

def isConstant : Piece → Bool
  | .constant _ _ => true
  | _ => false

def constant? : Piece → Option Value
  | .constant value _ => some value
  | _ => none

def constants (pieces : List Piece) : List Value := pieces.filterMap constant?

def lexemes : Piece → List Lexeme
  | .plain text => Lexeme.codes text.toList
  | .constant value text =>
      match value.quotedText? with
      | some content => [.literal content]
      | none => Lexeme.codes text.toList
  | .mark _ => [.code '?']
  | .flaw _ => []

def IsQuiet : Piece → Prop
  | .plain text => QuietText text.toList
  | .constant value text => value.constant = .ok text
  | .mark _ | .flaw _ => True

/-- A layout of quiet pieces in which something stands between any two
constants, so that no literal runs on into another. -/
structure Quiet (pieces : List Piece) : Prop where
  quiet : ∀ piece ∈ pieces, piece.IsQuiet
  parted : pieces.IsChain fun first second =>
    ¬ (first.isConstant ∧ second.isConstant)

theorem Quiet.of_cons {piece : Piece} {rest : List Piece}
    (quiet : Quiet (piece :: rest)) : Quiet rest :=
  ⟨fun other member => quiet.quiet other (List.mem_cons_of_mem piece member),
    quiet.parted.tail⟩

theorem Quiet.cons {piece : Piece} {rest : List Piece} (right : Quiet rest)
    (quiet : piece.IsQuiet) (parts : ¬ piece.isConstant) :
    Quiet (piece :: rest) := by
  constructor
  · intro other member
    rcases List.mem_cons.mp member with rfl | member
    · exact quiet
    · exact right.quiet other member
  · apply List.isChain_cons.mpr
    refine ⟨?_, right.parted⟩
    intro _ _ both
    exact parts both.1

theorem scan_textWith_append {piece : Piece} (quiet : piece.IsQuiet)
    (sound : piece.flaw? = none) {rest : List Char}
    (closed : piece.isConstant → rest.head? ≠ some '\'') :
    Lexeme.scan none ((piece.textWith "?").toList ++ rest) =
      (Lexeme.scan none rest).map (piece.lexemes ++ ·) := by
  have code {text : List Char} (quiet : QuietText text) :
      Lexeme.scan none (text ++ rest) =
        (Lexeme.scan none rest).map (Lexeme.codes text ++ ·) :=
    Lexeme.scan_codes_append (fun character member same => by
      have := quiet.characters character member
      simp [same] at this) rest
  cases piece with
  | plain text => exact code quiet
  | constant value text =>
      rcases Value.constant_eq_ok quiet with
        ⟨content, found, rfl⟩ | ⟨none, word⟩
      · simp only [textWith, lexemes, found]
        exact Lexeme.scan_quotedConstant_append content (closed rfl)
      · simp only [textWith, lexemes, none]
        exact code (.of_bareWord word)
  | mark value =>
      have := @Lexeme.scan_codes_append ['?'] (by simp) rest
      simpa [textWith, lexemes, Lexeme.codes] using this
  | flaw cause => cases sound

private theorem head_written {pieces : List Piece} (quiet : Quiet pieces)
    (sound : flaws pieces = [])
    (first : ∀ piece ∈ pieces.head?, ¬ piece.isConstant) :
    (written "?" pieces).toList.head? ≠ some '\'' := by
  cases pieces with
  | nil => simp [written]
  | cons piece rest =>
      have isQuiet := quiet.quiet piece List.mem_cons_self
      rw [written, String.toList_append]
      cases piece with
      | plain text =>
          intro quote
          rw [textWith, List.head?_append_of_ne_nil _ isQuiet.nonempty] at quote
          have := isQuiet.characters '\'' (List.mem_of_head? quote)
          simp at this
      | constant => exact absurd rfl (first _ rfl)
      | mark => simp [textWith]
      | flaw => cases sound

theorem scan_written {pieces : List Piece} (quiet : Quiet pieces)
    (sound : flaws pieces = []) :
    Lexeme.scan none (written "?" pieces).toList =
      some (pieces.flatMap lexemes) := by
  induction pieces with
  | nil => rfl
  | cons piece rest ih =>
      have noFlaw : piece.flaw? = none :=
        List.filterMap_eq_nil_iff.mp sound piece List.mem_cons_self
      have sound := (flaws_cons_of_none noFlaw rest).symm.trans sound
      have closed (isConstant : piece.isConstant) :
          (written "?" rest).toList.head? ≠ some '\'' :=
        head_written quiet.of_cons sound fun next isHead both =>
          (List.isChain_cons.mp quiet.parted).1 next isHead ⟨isConstant, both⟩
      rw [written, String.toList_append,
        scan_textWith_append (quiet.quiet piece List.mem_cons_self) noFlaw
          closed, ih quiet.of_cons sound]
      rfl

/-! ## What the lexemes show -/

theorem literals_lexemes (pieces : List Piece) :
    Lexeme.literals (pieces.flatMap lexemes) =
      (constants pieces).filterMap Value.quotedText? := by
  have codes (text : List Char) :
      Lexeme.literals (Lexeme.codes text) = [] := by
    simp [Lexeme.literals, Lexeme.codes]
  induction pieces with
  | nil => rfl
  | cons piece rest ih =>
      rw [List.flatMap_cons, Lexeme.literals, List.filterMap_append,
        ← Lexeme.literals, ← Lexeme.literals, ih]
      cases piece with
      | plain text => rw [lexemes, codes]; rfl
      | mark | flaw => rfl
      | constant value text =>
          have head : constants (.constant value text :: rest) =
              value :: constants rest := rfl
          rw [lexemes, head, List.filterMap_cons]
          cases value.quotedText? with
          | none => rw [codes]; rfl
          | some content => rfl

theorem lexemes_of_isQuiet {piece : Piece} (quiet : piece.IsQuiet) :
    piece.value?.isNone ∧
        (∃ text, QuietText text ∧ piece.lexemes = Lexeme.codes text) ∨
      piece.value?.isSome ∧ piece.lexemes = [.code '?'] ∨
      piece.value?.isNone ∧ (piece.lexemes = [] ∨
        ∃ content, piece.lexemes = [.literal content]) := by
  cases piece with
  | plain text => exact .inl ⟨rfl, _, quiet, rfl⟩
  | mark => exact .inr (.inl ⟨rfl, rfl⟩)
  | flaw => exact .inr (.inr ⟨rfl, .inl rfl⟩)
  | constant value text =>
      rcases Value.constant_eq_ok quiet with
        ⟨content, found, rfl⟩ | ⟨none, word⟩
      · exact .inr (.inr ⟨rfl, .inr ⟨content, by simp [lexemes, found]⟩⟩)
      · exact .inl ⟨rfl, _, .of_bareWord word, by simp [lexemes, none]⟩

namespace Quiet

theorem not_mem_of_code {pieces : List Piece} (quiet : Quiet pieces)
    {character : Char} (member : .code character ∈ pieces.flatMap lexemes) :
    character ∉ ['\'', '"', ';', '/'] := by
  obtain ⟨piece, isPiece, member⟩ := List.mem_flatMap.mp member
  rcases lexemes_of_isQuiet (quiet.quiet piece isPiece) with
    ⟨_, text, quiet, same⟩ | ⟨_, same⟩ | ⟨_, same | ⟨content, same⟩⟩
  · rw [same] at member
    have inText : character ∈ text := by simpa [Lexeme.codes] using member
    have := quiet.characters character inText
    simp_all
  · rw [same] at member
    cases List.mem_singleton.mp member
    decide
  · simp [same] at member
  · simp [same] at member

theorem count_code {pieces : List Piece} (quiet : Quiet pieces) :
    (pieces.flatMap lexemes).count (.code '?') = (carried pieces).length := by
  induction pieces with
  | nil => rfl
  | cons piece rest ih =>
      rw [List.flatMap_cons, List.count_append, ih quiet.of_cons,
        carried_cons, List.length_append]
      congr 1
      rcases lexemes_of_isQuiet (quiet.quiet piece List.mem_cons_self) with
        ⟨none, text, quiet, same⟩ | ⟨some, same⟩ |
          ⟨none, same | ⟨content, same⟩⟩
      · rw [same, List.count_eq_zero.mpr, Option.isNone_iff_eq_none.mp none]
        · rfl
        · intro member
          have inText : '?' ∈ text := by simpa [Lexeme.codes] using member
          have := quiet.characters '?' inText
          simp at this
      · obtain ⟨value, found⟩ := Option.isSome_iff_exists.mp some
        simp [same, found]
      · simp [same, Option.isNone_iff_eq_none.mp none]
      · simp [same, Option.isNone_iff_eq_none.mp none]

theorem apart_lexemes {pieces : List Piece} (quiet : Quiet pieces) :
    (pieces.flatMap lexemes).IsChain Lexeme.Apart := by
  have piecewise {piece : Piece} (quiet : piece.IsQuiet) :
      piece.lexemes.IsChain Lexeme.Apart ∧
        piece.lexemes.getLast? ≠ some (.code '-') := by
    rcases lexemes_of_isQuiet quiet with
      ⟨_, text, quiet, same⟩ | ⟨_, same⟩ | ⟨_, same | ⟨content, same⟩⟩
    · rw [same]
      refine ⟨quiet.apart, ?_⟩
      simpa [Lexeme.codes] using quiet.last
    all_goals simp [same]
  induction pieces with
  | nil => exact .nil
  | cons piece rest ih =>
      obtain ⟨apart, last⟩ :=
        piecewise (quiet.quiet piece List.mem_cons_self)
      rw [List.flatMap_cons]
      apply apart.append (ih quiet.of_cons)
      intro lexeme isLast _ _ both
      rw [both.1] at isLast
      exact last isLast

theorem not_isInfix {pieces : List Piece} (quiet : Quiet pieces)
    {opener : String} (listed : opener ∈ ["--", "//", "/*"]) :
    ¬ Lexeme.codes opener.toList <:+: pieces.flatMap lexemes := by
  intro inside
  have noSlash (member : .code '/' ∈ Lexeme.codes opener.toList) : False := by
    have := quiet.not_mem_of_code (inside.subset member)
    simp at this
  simp only [List.mem_cons, List.not_mem_nil, or_false] at listed
  rcases listed with rfl | rfl | rfl
  · have := quiet.apart_lexemes.infix inside
    exact (List.isChain_cons_cons.mp this).1 ⟨rfl, rfl⟩
  · exact noSlash (by decide)
  · exact noSlash (by decide)

end Quiet

end Piece

end StructuredCql
