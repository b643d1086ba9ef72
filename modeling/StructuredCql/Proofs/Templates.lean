import Mathlib
import StructuredCql.Proofs.Flaws
import StructuredCql.Session

/-!
# Fragments as templates

A fragment is its text with its arguments in the slots, each argument as it is
written in a selection.  Whether a question mark is a slot is told by the
character in front of it alone, and a text in which every question mark is
escaped is written as it was before, so that no text of an argument is ever
read for slots.
-/

namespace StructuredCql

/-! ## Reading a template character by character -/

/-- What a character of a template stands for between its neighbours.  A
backslash that escapes a question mark stands for nothing. -/
def pieceBetween (before : Option Char) (character : Char)
    (next : Option Char) : Option TemplatePiece :=
  if character = '?' then
    if before = some '\\' then some (.plain '?') else some .slot
  else if character = '\\' ∧ next = some '?' then none
  else some (.plain character)

def piecesBetween (before : Option Char) : List Char → List TemplatePiece
  | [] => []
  | character :: rest =>
      (pieceBetween before character rest.head?).toList ++
        piecesBetween (some character) rest

private theorem piecesBetween_eq (before : Option Char) (text : List Char)
    (apart : before = some '\\' → text.head? ≠ some '?') :
    piecesBetween before text = templatePieces text := by
  induction text using templatePieces.induct generalizing before with
  | case1 => rfl
  | case2 rest ih =>
      have rest := ih (some '?') (by simp)
      simp [piecesBetween, pieceBetween, templatePieces, rest]
  | case3 rest ih =>
      have unescaped : before ≠ some '\\' := fun escaped =>
        apart escaped rfl
      have rest := ih (some '?') (by simp)
      simp [piecesBetween, pieceBetween, templatePieces, unescaped, rest]
  | case4 character rest notEscape notSlot ih =>
      have apart : character = '\\' → rest.head? ≠ some '?' := by
        rintro rfl slot
        obtain ⟨others, rfl⟩ := List.head?_eq_some_iff.mp slot
        exact notEscape others rfl rfl
      have rest_eq := ih (some character) (by simpa using apart)
      have kept : ¬ (character = '\\' ∧ rest.head? = some '?') :=
        fun escape => apart escape.1 escape.2
      have plain : character ≠ '?' := notSlot
      rw [templatePieces, piecesBetween, rest_eq, pieceBetween, if_neg plain,
        if_neg kept]
      · rfl
      · exact notEscape
      · exact notSlot

theorem templatePieces_eq_piecesBetween (text : List Char) :
    templatePieces text = piecesBetween none text :=
  (piecesBetween_eq none text (by simp)).symm

/-! ## Escaping -/

def escapedCharacter (character : Char) : List Char :=
  if character = '?' then ['\\', '?'] else [character]

def escaped (text : List Char) : List Char := text.flatMap escapedCharacter

theorem head?_escaped_append_ne (text rest : List Char)
    (apart : text = [] → rest.head? ≠ some '?') :
    (escaped text ++ rest).head? ≠ some '?' := by
  cases text with
  | nil => exact apart rfl
  | cons character text =>
      by_cases slot : character = '?' <;>
        simp [escaped, escapedCharacter, slot]

theorem templatePieces_cons {character : Char} {rest : List Char}
    (plain : character ≠ '?')
    (apart : character = '\\' → rest.head? ≠ some '?') :
    templatePieces (character :: rest) =
      .plain character :: templatePieces rest := by
  rw [templatePieces]
  · rintro others rfl rfl
    exact apart rfl rfl
  · exact plain

/-- An escaped text is read as it was, unless its last backslash meets a
question mark behind it. -/
theorem templatePieces_escaped_append (text rest : List Char)
    (apart : text.getLast? = some '\\' → rest.head? ≠ some '?') :
    templatePieces (escaped text ++ rest) =
      text.map .plain ++ templatePieces rest := by
  induction text with
  | nil => rfl
  | cons character text ih =>
      have further := ih fun last =>
        apart (by rw [List.getLast?_cons, last]; rfl)
      rw [escaped, List.flatMap_cons, ← escaped]
      by_cases slot : character = '?'
      · subst slot
        simp [escapedCharacter, templatePieces, further]
      · rw [escapedCharacter, if_neg slot, List.cons_append,
          List.nil_append, List.cons_append, templatePieces_cons slot,
          further]
        · rfl
        · intro backslash
          apply head?_escaped_append_ne
          rintro rfl
          exact apart (by rw [backslash]; rfl)

/-! ## Templates with texts in their slots -/

def filledText : List TemplatePiece → List String → String
  | [], _ => ""
  | .plain character :: pieces, texts =>
      character.toString ++ filledText pieces texts
  | .slot :: pieces, [] => filledText pieces []
  | .slot :: pieces, text :: texts => text ++ filledText pieces texts

theorem filledText_plain_append (text : List Char)
    (pieces : List TemplatePiece) (texts : List String) :
    filledText (text.map .plain ++ pieces) texts =
      String.ofList text ++ filledText pieces texts := by
  induction text with
  | nil => simp
  | cons character text ih =>
      have character_text :
          String.ofList (character :: text) =
            character.toString ++ String.ofList text := by
        apply String.toList_injective
        simp
      rw [List.map_cons, List.cons_append, filledText, ih, character_text,
        String.append_assoc]

theorem slotCount_plain_append (text : List Char)
    (pieces : List TemplatePiece) :
    slotCount (text.map .plain ++ pieces) = slotCount pieces := by
  induction text with
  | nil => rfl
  | cons character text ih =>
      rw [List.map_cons, List.cons_append, slotCount_plain_cons, ih]

theorem Piece.written_filled (placeholder template : String) (count : Nat)
    (pieces : List TemplatePiece) (args : List (List Piece)) :
    written placeholder (filled template count pieces args) =
      filledText pieces (args.map (written placeholder)) := by
  induction pieces generalizing args with
  | nil => cases args <;> rfl
  | cons piece pieces ih =>
      cases piece with
      | plain character => rw [filled, written, ih, filledText, textWith]
      | slot =>
          cases args with
          | nil =>
              rw [filled, written, ih]
              exact String.empty_append
          | cons arg args =>
              rw [filled, written_append, ih, List.map_cons, filledText]

/-! ## The law of fragments -/

/-- The text of an argument, typed or raw, that is selected by itself. -/
def Value.SelectedAs (placeholder : String) (arg : Value)
    (text : String) : Prop :=
  ((PieceRequest.select [arg]).run ⟨placeholder, []⟩).1 =
    .ok ("SELECT " ++ text)

theorem selectClause_singleton (operand : Expr) :
    selectClause [operand] = (do
      let text ← operand.render
      pure ("SELECT " ++ text)) := by
  simp only [selectClause, Expr.renderAll, pure_bind, bind_assoc,
    Text.joined]

namespace Value

theorem selectedAs_iff {placeholder : String} {arg : Value} {text : String} :
    arg.SelectedAs placeholder text ↔
      ∃ operand, Expr.ofValue arg = .ok operand ∧ operand.flaws = [] ∧
        text = Piece.written placeholder operand.layout := by
  unfold SelectedAs
  cases read : Expr.ofValue arg with
  | error issues =>
      simp [PieceRequest.run, PieceRequest.build, PieceRequest.operands,
        read, Reading.orFail]
  | ok operand =>
      have built : (PieceRequest.select [arg]).build =
          .ok (selectClause [operand]) := by
        simp only [PieceRequest.build, PieceRequest.operands, List.mapM_cons,
          List.mapM_nil, read, Reading.orFail]
        rfl
      have run : ((PieceRequest.select [arg]).run ⟨placeholder, []⟩).1 =
          orRefuse ((selectClause [operand]).runWith ⟨placeholder, []⟩).1 := by
        rw [PieceRequest.run, built]
      rw [run, selectClause_singleton, Build.runWith_bind,
        Expr.render_eq_writeAll, Piece.runWith_writeAll, Expr.flaws_layout]
      cases found : operand.flaws with
      | nil =>
          constructor
          · intro written
            have same : Piece.written placeholder operand.layout = text := by
              simpa [orRefuse] using written
            exact ⟨operand, rfl, found, same.symm⟩
          · rintro ⟨_, ⟨⟩, _, rfl⟩
            rfl
      | cons cause others =>
          constructor
          · rintro ⟨⟩
          · rintro ⟨_, ⟨⟩, sound, _⟩
            rw [found] at sound
            cases sound

theorem forall₂_selectedAs_iff {placeholder : String} {args : List Value}
    {texts : List String} :
    List.Forall₂ (SelectedAs placeholder) args texts ↔
      (∀ arg ∈ args, ∃ operand, Expr.ofValue arg = .ok operand ∧
        operand.flaws = []) ∧
      texts = (args.map argumentLayout).map (Piece.written placeholder) := by
  induction args generalizing texts with
  | nil => simp [List.forall₂_nil_left_iff]
  | cons arg args ih =>
      rw [List.forall₂_cons_left_iff]
      simp only [selectedAs_iff, ih, List.forall_mem_cons, List.map_cons]
      constructor
      · rintro ⟨_, _, ⟨operand, read, sound, rfl⟩, ⟨rest, rfl⟩, rfl⟩
        exact ⟨⟨⟨operand, read, sound⟩, rest⟩, by simp [argumentLayout, read]⟩
      · rintro ⟨⟨⟨operand, read, sound⟩, rest⟩, rfl⟩
        exact ⟨_, _, ⟨operand, read, sound, by simp [argumentLayout, read]⟩,
          ⟨rest, rfl⟩, rfl⟩

end Value

namespace Expr

theorem render_fragment_eq_ok_iff {binder : Binder} {template : String}
    {args : List Value} {text : String} :
    ((Expr.fragment template args).render.runWith binder).1 = .ok text ↔
      slotCount (templatePieces template.toList) = args.length ∧
        ∃ texts,
          List.Forall₂ (Value.SelectedAs binder.placeholder) args texts ∧
          text = filledText (templatePieces template.toList) texts := by
  simp only [Value.forall₂_selectedAs_iff]
  rw [render_eq_writeAll, Piece.runWith_writeAll, flaws_layout]
  cases found : (Expr.fragment template args).flaws with
  | nil =>
      obtain ⟨slots, sound⟩ := flaws_fragment_eq_nil_iff.mp found
      rw [layout_fragment, Piece.written_filled]
      constructor
      · rintro ⟨⟩
        exact ⟨slots, _, ⟨sound, rfl⟩, rfl⟩
      · rintro ⟨_, _, ⟨_, rfl⟩, rfl⟩
        rfl
  | cons cause others =>
      constructor
      · rintro ⟨⟩
      · rintro ⟨slots, _, ⟨sound, _⟩, _⟩
        rw [flaws_fragment_eq_nil_iff.mpr ⟨slots, sound⟩] at found
        cases found

theorem exists_render_fragment_eq_ok_iff {binder : Binder}
    {template : String} {args : List Value} :
    (∃ text,
      ((Expr.fragment template args).render.runWith binder).1 = .ok text) ↔
      slotCount (templatePieces template.toList) = args.length ∧
        ∀ arg ∈ args, ∃ text, arg.SelectedAs binder.placeholder text := by
  simp only [render_fragment_eq_ok_iff, Value.forall₂_selectedAs_iff,
    Value.selectedAs_iff]
  constructor
  · rintro ⟨_, slots, _, ⟨sound, _⟩, _⟩
    refine ⟨slots, fun arg member => ?_⟩
    obtain ⟨operand, read, flawless⟩ := sound arg member
    exact ⟨_, operand, read, flawless, rfl⟩
  · rintro ⟨slots, sound⟩
    refine ⟨_, slots, _, ⟨fun arg member => ?_, rfl⟩, rfl⟩
    obtain ⟨_, operand, read, flawless, _⟩ := sound arg member
    exact ⟨operand, read, flawless⟩

end Expr

/-! ## Escaped literals around slots -/

/-- An argument with the literal in front of its slot and the text that is to
stand in it. -/
structure Insertion where
  literal : List Char
  arg : Value
  text : String

def escapedTemplate (last : List Char) : List Insertion → List Char
  | [] => escaped last
  | insertion :: rest =>
      escaped insertion.literal ++ '?' :: escapedTemplate last rest

def spliced (last : List Char) : List Insertion → String
  | [] => String.ofList last
  | insertion :: rest =>
      String.ofList insertion.literal ++ (insertion.text ++ spliced last rest)

theorem templatePieces_escapedTemplate_nil (last : List Char) :
    templatePieces (escapedTemplate last []) = last.map .plain := by
  have pieces := templatePieces_escaped_append last [] (by simp)
  rwa [List.append_nil, templatePieces, List.append_nil] at pieces

theorem templatePieces_escapedTemplate_cons (last : List Char)
    {insertion : Insertion} (rest : List Insertion)
    (apart : insertion.literal.getLast? ≠ some '\\') :
    templatePieces (escapedTemplate last (insertion :: rest)) =
      insertion.literal.map .plain ++
        .slot :: templatePieces (escapedTemplate last rest) := by
  rw [escapedTemplate, templatePieces_escaped_append]
  · rfl
  · exact fun escape => absurd escape apart

section

variable (last : List Char) {insertions : List Insertion}
    (apart : ∀ insertion ∈ insertions,
      insertion.literal.getLast? ≠ some '\\')

include apart

theorem slotCount_escapedTemplate :
    slotCount (templatePieces (escapedTemplate last insertions)) =
      insertions.length := by
  induction insertions with
  | nil =>
      have count := slotCount_plain_append last []
      rwa [List.append_nil, ← templatePieces_escapedTemplate_nil] at count
  | cons insertion rest ih =>
      rw [List.forall_mem_cons] at apart
      rw [templatePieces_escapedTemplate_cons last rest apart.1,
        slotCount_plain_append, slotCount_slot_cons, ih apart.2,
        List.length_cons]

theorem filledText_escapedTemplate :
    filledText (templatePieces (escapedTemplate last insertions))
        (insertions.map Insertion.text) = spliced last insertions := by
  induction insertions with
  | nil =>
      have text := filledText_plain_append last [] []
      rwa [List.append_nil, ← templatePieces_escapedTemplate_nil, filledText,
        String.append_empty] at text
  | cons insertion rest ih =>
      rw [List.forall_mem_cons] at apart
      rw [templatePieces_escapedTemplate_cons last rest apart.1,
        filledText_plain_append, List.map_cons, filledText, ih apart.2,
        spliced]

end

namespace Expr

theorem render_escapedTemplate {binder : Binder} (last : List Char)
    {insertions : List Insertion}
    (fits : ∀ insertion ∈ insertions,
      insertion.literal.getLast? ≠ some '\\' ∧
        insertion.arg.SelectedAs binder.placeholder insertion.text) :
    ((Expr.fragment (String.ofList (escapedTemplate last insertions))
        (insertions.map Insertion.arg)).render.runWith binder).1 =
      .ok (spliced last insertions) := by
  have apart := fun insertion member => (fits insertion member).1
  rw [render_fragment_eq_ok_iff, String.toList_ofList, List.length_map]
  refine ⟨slotCount_escapedTemplate last apart,
    insertions.map Insertion.text, ?_,
    (filledText_escapedTemplate last apart).symm⟩
  rw [List.forall₂_map_left_iff, List.forall₂_map_right_iff,
    List.forall₂_same]
  exact fun insertion member => (fits insertion member).2

/-- A fragment is rendered when it has an argument for every slot and each of
them can be selected, and its text has in every slot what its argument is
selected as.  A template that is put together from escaped literals and slots
gives the literals back as they were, with the arguments between them. -/
theorem fragment_template_law (binder : Binder) :
    (∀ text, templatePieces text = piecesBetween none text) ∧
    (∀ template args,
      (∃ text, ((Expr.fragment template args).render.runWith binder).1 =
          .ok text) ↔
        slotCount (templatePieces template.toList) = args.length ∧
          ∀ arg ∈ args, ∃ text, arg.SelectedAs binder.placeholder text) ∧
    (∀ template args text,
      ((Expr.fragment template args).render.runWith binder).1 = .ok text ↔
        slotCount (templatePieces template.toList) = args.length ∧
          ∃ texts,
            List.Forall₂ (Value.SelectedAs binder.placeholder) args texts ∧
            text = filledText (templatePieces template.toList) texts) ∧
    ∀ (last : List Char) (insertions : List Insertion),
      (∀ insertion ∈ insertions,
        insertion.literal.getLast? ≠ some '\\' ∧
          insertion.arg.SelectedAs binder.placeholder insertion.text) →
      ((Expr.fragment (String.ofList (escapedTemplate last insertions))
          (insertions.map Insertion.arg)).render.runWith binder).1 =
        .ok (spliced last insertions) := by
  refine ⟨templatePieces_eq_piecesBetween, ?_, ?_, ?_⟩
  · intro template args
    exact exists_render_fragment_eq_ok_iff
  · intro template args text
    exact render_fragment_eq_ok_iff
  · intro last insertions fits
    exact render_escapedTemplate last fits

def quotedSlot : List Insertion :=
  [⟨['\\', '?', '('], .mapping [(.text "value", .text "?\\")], "'?\\'"⟩]

theorem fragment_template_law_quotedSlot :
    ((Expr.fragment "\\\\?(?)\\"
        [.mapping [(.text "value", .text "?\\")]]).render.runWith .empty).1 =
      .ok "\\?('?\\')\\" := by
  have selected : Value.SelectedAs "?"
      (.mapping [(.text "value", .text "?\\")]) "'?\\'" := by cbv
  have template : String.ofList (escapedTemplate [')', '\\'] quotedSlot) =
      "\\\\?(?)\\" := by decide
  have text : spliced [')', '\\'] quotedSlot = "\\?('?\\')\\" := by decide
  have rendered := (fragment_template_law .empty).2.2.2 [')', '\\'] quotedSlot
    (by simpa [quotedSlot, Binder.empty] using selected)
  rwa [template, text] at rendered

end Expr

end StructuredCql
