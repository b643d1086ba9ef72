import Mathlib
import StructuredCql.Json.Reader
import StructuredCql.Proofs.Digits
import StructuredCql.Proofs.Entries
import StructuredCql.Proofs.Writable

/-!
# Long whole numbers in JSON texts

A text is refused for the length of a number only if a whole number of that
many digits stands in it where a value begins, outside of all quoted texts.
What is read from any other text is writable.

The readers are followed from position to position of one text: a position is
known by what is left of the text there.
-/

namespace StructuredCql.Json

/-! ## Positions in a text -/

/-- Where a character stands: outside of quoted texts, in one, or behind a
backslash in one. -/
inductive Place where
  | outside
  | quoted
  | escaped
deriving DecidableEq

def Place.next : Place → Char → Place
  | .outside, '"' => .quoted
  | .outside, _ => .outside
  | .quoted, '"' => .outside
  | .quoted, '\\' => .escaped
  | .quoted, _ => .quoted
  | .escaped, _ => .quoted

def Place.after (place : Place) (characters : List Char) : Place :=
  characters.foldl next place

@[simp] theorem Place.after_append (place : Place)
    (first second : List Char) :
    place.after (first ++ second) = (place.after first).after second :=
  List.foldl_append

theorem Place.next_outside {character : Char} (noQuote : character ≠ '"') :
    outside.next character = outside := by
  unfold next
  split <;> simp_all

theorem Place.next_quoted {character : Char} (noQuote : character ≠ '"')
    (noBackslash : character ≠ '\\') : quoted.next character = quoted := by
  unfold next
  split <;> simp_all

/-- From one position on the text can be read up to another, from one place to
another. -/
def Leads (start finish : Place) (text rest : List Char) : Prop :=
  ∃ taken, text = taken ++ rest ∧ start.after taken = finish

namespace Leads

variable {start middle finish : Place} {text rest further : List Char}

theorem refl : Leads start start text text := ⟨[], rfl, rfl⟩

theorem trans (first : Leads start middle text rest)
    (second : Leads middle finish rest further) :
    Leads start finish text further := by
  obtain ⟨taken, rfl, rfl⟩ := first
  obtain ⟨more, rfl, rfl⟩ := second
  exact ⟨taken ++ more, by simp, by simp⟩

theorem cons {character : Char}
    (read : Leads (start.next character) finish text rest) :
    Leads start finish (character :: text) rest := by
  obtain ⟨taken, rfl, rfl⟩ := read
  exact ⟨character :: taken, rfl, rfl⟩

end Leads

abbrev Left : List Char → List Char → Prop := Leads .outside .outside

namespace Left

variable {text rest : List Char}

theorem cons {character : Char} (noQuote : character ≠ '"')
    (left : Left text rest) : Left (character :: text) rest :=
  Leads.cons <| by rwa [Place.next_outside noQuote]

theorem append {front : List Char} (noQuote : '"' ∉ front) :
    Left (front ++ rest) rest := by
  induction front with
  | nil => exact .refl
  | cons character front ih =>
      rw [List.mem_cons, not_or] at noQuote
      exact .cons (Ne.symm noQuote.1) (ih noQuote.2)

end Left

def beforeValue (mark : Char) : Bool :=
  isBlank mark || mark = '[' || mark = ',' || mark = ':'

/-- A value can begin at the rest: it is behind one of the marks. -/
def Opens (text rest : List Char) : Prop :=
  ∃ mark, beforeValue mark ∧ Left text (mark :: rest)

def Begins (text rest : List Char) : Prop := rest = text ∨ Opens text rest

def continuesNumber : List Char → Bool
  | '.' :: digit :: _ => digit.isDigit
  | mark :: sign :: rest =>
      mark.isDigit ||
        (mark = 'e' || mark = 'E') &&
          (sign.isDigit || (sign = '+' || sign = '-') &&
            rest.head?.any Char.isDigit)
  | [digit] => digit.isDigit
  | [] => false

/-- The text begins with a whole number of so many digits. -/
def BeginsWhole (text : List Char) (count : Nat) : Prop :=
  ∃ sign digits after, text = sign ++ (digits ++ after) ∧
    (sign = [] ∨ sign = ['-']) ∧ digits.length = count ∧
    (∀ digit ∈ digits, digit.isDigit) ∧
    (digits = ['0'] ∨ digits.head? ≠ some '0') ∧
    continuesNumber after = false

/-- Somewhere in the text, where a value can begin, stands a whole number of
so many digits. -/
def HoldsWhole (text : List Char) (count : Nat) : Prop :=
  ∃ rest, Begins text rest ∧ BeginsWhole rest count

theorem Opens.left {text rest : List Char} (opens : Opens text rest) :
    Left text rest := by
  obtain ⟨mark, isMark, left⟩ := opens
  refine left.trans (Left.cons ?_ .refl)
  rintro rfl
  revert isMark
  decide

theorem Begins.left {text rest : List Char} (begins : Begins text rest) :
    Left text rest := by
  rcases begins with rfl | opens
  · exact .refl
  · exact opens.left

theorem HoldsWhole.le_length {text : List Char} {count : Nat}
    (holds : HoldsWhole text count) : count ≤ text.length := by
  obtain ⟨rest, begins, sign, digits, after, same, _, length, _⟩ := holds
  obtain ⟨taken, rfl, _⟩ := begins.left
  rw [same, ← length]
  simp only [List.length_append]
  omega

theorem Left.opens {text rest further : List Char} (left : Left text rest)
    (opens : Opens rest further) : Opens text further := by
  obtain ⟨mark, isMark, more⟩ := opens
  exact ⟨mark, isMark, left.trans more⟩

/-! ## Blanks and marks -/

theorem skipBlanks_begins (text : List Char) :
    Begins text (skipBlanks text).1 := by
  induction text with
  | nil => exact .inl rfl
  | cons character text ih =>
      unfold skipBlanks
      split
      · next blank =>
        right
        have isMark : beforeValue character := by simp [beforeValue, blank]
        have one : Opens (character :: text) text :=
          ⟨character, isMark, .refl⟩
        rcases ih with same | opens
        · rwa [same]
        · exact one.left.opens opens
      · exact .inl rfl

theorem Opens.blanks {text rest : List Char} (opens : Opens text rest) :
    Opens text (skipBlanks rest).1 := by
  rcases skipBlanks_begins rest with same | more
  · rwa [same]
  · exact opens.left.opens more

theorem Left.blanks {text rest : List Char} (left : Left text rest) :
    Left text (skipBlanks rest).1 :=
  left.trans (skipBlanks_begins rest).left

theorem left_of_afterMark? {mark : Char} {text : List Char}
    {rest : Shorter text} (read : afterMark? mark text = some rest) :
    Left text (mark :: rest.1) := by
  unfold afterMark? at read
  split at read
  · cases read
  · next character rest shorter found =>
    split at read
    · next same =>
      cases read
      have := (skipBlanks_begins text).left
      rwa [found, same] at this
    · cases read

theorem Left.afterMark {plan text : List Char} {mark : Char}
    {rest : Shorter text} (left : Left plan text)
    (read : afterMark? mark text = some rest) (noQuote : mark ≠ '"') :
    Left plan rest.1 :=
  left.trans ((left_of_afterMark? read).trans (Left.cons noQuote .refl))

/-! ## Quoted texts -/

/-- What an outcome gives, with what is left then, or the number of digits
that it is refused for. -/
def Yields {α : Type} {bounded : List Char → Prop}
    (given : α → List Char → Prop) (oversized : Nat → Prop) :
    Outcome (α × Subtype bounded) → Prop
  | .ok (result, rest) => given result rest.1
  | .error (.oversizedInteger count) => oversized count
  | .error (.malformed _ _) => True

theorem Yields.failed {α β : Type} {bounded bounded' : List Char → Prop}
    {given : α → List Char → Prop} {given' : β → List Char → Prop}
    {oversized : Nat → Prop} {failure : Failure}
    {outcome : Outcome (α × Subtype bounded)}
    (yields : Yields given oversized outcome)
    (found : outcome = .error failure) :
    Yields given' oversized
      (.error failure : Outcome (β × Subtype bounded')) := by
  subst found
  cases failure with
  | malformed => trivial
  | oversizedInteger count => exact yields

theorem Yields.result {α : Type} {bounded : List Char → Prop}
    {given : α → List Char → Prop} {oversized : Nat → Prop}
    {outcome : Outcome (α × Subtype bounded)} {result : α}
    {rest : Subtype bounded} (yields : Yields given oversized outcome)
    (found : outcome = .ok (result, rest)) : given result rest.1 := by
  subst found
  exact yields

theorem Leads.ordinary {finish : Place} {character : Char}
    {text rest : List Char} (noQuote : character ≠ '"')
    (noBackslash : character ≠ '\\')
    (read : Leads .quoted finish text rest) :
    Leads .quoted finish (character :: text) rest :=
  .cons <| by rwa [Place.next_quoted noQuote noBackslash]

private theorem ordinary_of_hexDigitValue? {digit : Char} {value : Nat}
    (isDigit : Text.hexDigitValue? digit = some value) :
    digit ≠ '"' ∧ digit ≠ '\\' := by
  constructor <;>
    · rintro rfl
      cases isDigit

theorem Leads.codeUnit {finish : Place} {first second third fourth : Char}
    {unit : Nat} {text rest : List Char}
    (isUnit : codeUnit? first second third fourth = some unit)
    (read : Leads .quoted finish text rest) :
    Leads .quoted finish
      ('\\' :: 'u' :: first :: second :: third :: fourth :: text) rest := by
  obtain ⟨_, isFirst, isUnit⟩ := Option.bind_eq_some_iff.mp isUnit
  obtain ⟨_, isSecond, isUnit⟩ := Option.bind_eq_some_iff.mp isUnit
  obtain ⟨_, isThird, isUnit⟩ := Option.bind_eq_some_iff.mp isUnit
  obtain ⟨_, isFourth, _⟩ := Option.bind_eq_some_iff.mp isUnit
  have digit {digit : Char} {value : Nat} {text : List Char}
      (isDigit : Text.hexDigitValue? digit = some value)
      (read : Leads .quoted finish text rest) :
      Leads .quoted finish (digit :: text) rest :=
    .ordinary (ordinary_of_hexDigitValue? isDigit).1
      (ordinary_of_hexDigitValue? isDigit).2 read
  exact .cons <| .cons <| digit isFirst <| digit isSecond <| digit isThird <|
    digit isFourth read

theorem readText_yields (oversized : Nat → Prop) (opening : Nat)
    (text : List Char) :
    Yields (fun _ rest => Leads .quoted .outside text rest) oversized
      (readText opening text) := by
  -- Failures of the text itself come first, then those that are passed on, then
  -- the texts that go on behind one or two escapes or a character.
  fun_induction readText opening text with
  | case1 | case3 | case4 | case9 | case12 | case13 | case16 => trivial
  | case5 | case7 | case14 | case17 =>
      rename_i found ih
      exact ih.failed found
  | case10 =>
      rename_i found _ ih
      exact ih.failed found
  | case2 => exact .cons .refl
  | case6 _ _ _ _ _ isUnit _ _ _ _ _ _ _ _ isLow _ _ _ _ found ih =>
      exact .codeUnit isUnit (.codeUnit isLow (ih.result found))
  | case8 _ _ _ _ _ isUnit _ _ _ _ _ _ _ _ _ _ _ _ _ found ih =>
      exact .codeUnit isUnit (ih.result found)
  | case11 _ _ _ _ _ isUnit _ _ _ _ _ found _ ih =>
      exact .codeUnit isUnit (ih.result found)
  | case15 _ _ _ _ _ _ _ _ _ found ih =>
      exact .cons (.cons (ih.result found))
  | case18 character text noQuote ended _ _ noEscape _ _ _ _ found ih =>
      refine .ordinary noQuote ?_ (ih.result found)
      intro backslash
      cases text with
      | nil => exact ended backslash rfl
      | cons mark text => exact noEscape mark text backslash rfl

/-! ## Numbers -/

theorem Left.digits (text : List Char) : Left text (splitDigits text).2.1 := by
  have parts : text.takeWhile Char.isDigit ++ text.dropWhile Char.isDigit =
      text := List.takeWhile_append_dropWhile
  have noQuote : '"' ∉ text.takeWhile Char.isDigit := by
    intro member
    exact absurd (List.mem_takeWhile_imp member) (by simp)
  have left : Left (text.takeWhile Char.isDigit ++
      text.dropWhile Char.isDigit) (text.dropWhile Char.isDigit) :=
    append noQuote
  rwa [parts] at left

theorem readWhole?_eq_some {text whole : List Char} {rest : Shorter text}
    (read : readWhole? text = some (whole, rest)) :
    text = whole ++ rest.1 ∧ (∀ digit ∈ whole, digit.isDigit) ∧
      (whole = ['0'] ∨
        whole.head? ≠ some '0' ∧ rest.1.head?.any Char.isDigit = false) := by
  unfold readWhole? at read
  split at read
  · cases read
    exact ⟨rfl, by simp, .inl rfl⟩
  · next digit text noZero =>
    split at read
    · next isDigit =>
      cases read
      refine ⟨?_, ?_, .inr ⟨?_, ?_⟩⟩
      · simp
      · rw [List.forall_mem_cons]
        exact ⟨isDigit, fun _ => List.mem_takeWhile_imp⟩
      · simpa using noZero
      · have ended := List.head?_dropWhile_not Char.isDigit text
        change (text.dropWhile Char.isDigit).head?.any Char.isDigit = false
        cases next : (text.dropWhile Char.isDigit).head? with
        | none => rfl
        | some next => simpa [next] using ended
    · cases read
  · cases read

theorem readFraction_left (text : List Char) :
    Left text (readFraction text).2.1 := by
  unfold readFraction
  split
  · next text =>
    have left := Left.digits text
    split
    · exact .refl
    · next found =>
      rw [found] at left
      exact .cons (by decide) left
  · exact .refl

theorem readPower_left (text : List Char) : Left text (readPower text).2.1 := by
  unfold readPower
  split
  · next mark sign tail =>
    split
    · next isMark =>
      have mark_left {text : List Char} : Left (mark :: text) text := by
        rcases isMark with rfl | rfl <;> exact .cons (by decide) .refl
      have sign_left : Left (sign :: tail)
          (if sign = '+' ∨ sign = '-' then tail else sign :: tail) := by
        split
        · next signed =>
          rcases signed with rfl | rfl <;> exact .cons (by decide) .refl
        · exact .refl
      have digits_left := Left.digits
        (if sign = '+' ∨ sign = '-' then tail else sign :: tail)
      dsimp only
      by_cases empty : (splitDigits
          (if sign = '+' ∨ sign = '-' then tail else sign :: tail)).1.isEmpty
      · rw [if_pos empty]
        exact .refl
      · rw [if_neg empty]
        exact mark_left.trans (sign_left.trans digits_left)
    · exact .refl
  · exact .refl

theorem readFraction_rest {text : List Char} :
    (readFraction text).1 = [] → (readFraction text).2.1 = text := by
  unfold readFraction
  split
  · split
    · exact fun _ => rfl
    · next some _ => exact fun none => absurd none some
  · exact fun _ => rfl

theorem continuesNumber_eq_false {text : List Char}
    (noDigit : text.head?.any Char.isDigit = false)
    (noFraction : (readFraction text).1 = [])
    (noPower : (readPower text).1 = none) : continuesNumber text = false := by
  unfold continuesNumber
  split
  · next digit rest =>
    by_contra isDigit
    simp [readFraction, splitDigits, isDigit] at noFraction
  · next mark sign rest _ =>
    rw [Bool.or_eq_false_iff]
    refine ⟨by simpa using noDigit, ?_⟩
    by_contra power
    simp only [Bool.not_eq_false, Bool.or_eq_true, Bool.and_eq_true,
      decide_eq_true_eq] at power
    obtain ⟨isMark, isDigit | ⟨signed, digits⟩⟩ := power
    · have unsigned : ¬(sign = '+' ∨ sign = '-') := by
        rintro (rfl | rfl) <;> cases isDigit
      simp [readPower, splitDigits, isMark, unsigned, isDigit] at noPower
    · cases rest with
      | nil => cases digits
      | cons digit rest =>
          have isDigit : digit.isDigit := by simpa using digits
          simp [readPower, splitDigits, isMark, signed, isDigit] at noPower
  · simpa using noDigit
  · rfl

/-- What is read of the text: a writable result and a position outside of
quoted texts, or the digits of a long number in the text. -/
abbrev Reads {α : Type} {bounded : List Char → Prop} (plan : List Char)
    (writable : α → Prop) : Outcome (α × Subtype bounded) → Prop :=
  Yields (fun result rest => writable result ∧ Left plan rest)
    fun count => Whole.longest < count ∧ HoldsWhole plan count

theorem readNumber_reads {plan sign text : List Char} {negative : Bool}
    {outcome : Outcome (Value × Shorter text)}
    (begins : Begins plan (sign ++ text)) (isSign : sign = [] ∨ sign = ['-'])
    (read : readNumber negative text = some outcome) :
    Reads plan (fun value => value.isWritable) outcome := by
  have left : Left plan text := begins.left.trans <| Left.append <| by
    rcases isSign with rfl | rfl <;> simp
  unfold readNumber at read
  split at read
  · cases read
  · next whole afterWhole shorter found =>
    obtain ⟨same, digits, noZero⟩ := readWhole?_eq_some found
    dsimp only at read same
    have whole_left : Left plan afterWhole := by
      refine left.trans (same ▸ Left.append fun quote => ?_)
      exact absurd (digits _ quote) (by decide)
    have fraction_left := whole_left.trans (readFraction_left afterWhole)
    have power_left := fraction_left.trans (readPower_left _)
    split at read
    · next ended =>
      rw [List.isEmpty_iff, Option.isNone_iff_eq_none] at ended
      rw [readFraction_rest ended.1] at ended
      split at read
      · next long =>
        cases read
        have more : whole ≠ ['0'] := by
          rintro rfl
          exact absurd long (by decide)
        obtain ⟨noZero, noDigit⟩ := noZero.resolve_left more
        exact ⟨long, _, begins, sign, whole, afterWhole, by rw [same], isSign,
          rfl, digits, .inr noZero,
          continuesNumber_eq_false noDigit ended.1 ended.2⟩
      · next short =>
        cases read
        refine ⟨?_, power_left⟩
        simp only [Value.isWritable]
        refine Whole.isWritable_of_digits digits (by omega) ?_
        split <;> simp
    · cases read
      exact ⟨by simp [Value.isWritable], power_left⟩

theorem afterWord?_eq_some {word text : List Char} {rest : Rest text}
    (read : afterWord? word text = some rest) : text = word ++ rest.1 := by
  fun_induction afterWord? word text with
  | case1 => cases read; rfl
  | case2 => cases read
  | case3 =>
      rename_i ih
      obtain ⟨⟨inner, shorter⟩, found, rfl⟩ := Option.map_eq_some_iff.mp read
      exact congrArg (List.cons _) (ih found)
  | case4 => cases read

theorem readWord?_left {first : Char} {text : List Char} {value : Value}
    {rest : Rest text} (read : readWord? first text = some (value, rest)) :
    value.isWritable ∧ Left (first :: text) rest.1 := by
  obtain ⟨⟨tail, word⟩, known, read⟩ := Option.bind_eq_some_iff.mp read
  obtain ⟨after, follows, read⟩ := Option.bind_eq_some_iff.mp read
  cases read
  have word_left (noQuote : '"' ∉ first :: tail) :
      Left (first :: text) rest.1 := by
    have left : Left (first :: tail ++ rest.1) rest.1 := Left.append noQuote
    rwa [List.cons_append, ← afterWord?_eq_some follows] at left
  unfold wordTail? at known
  split at known <;> cases known <;>
    exact ⟨by simp [Value.isWritable], word_left (by decide)⟩

theorem readSimple_reads {plan text : List Char} (begins : Begins plan text) :
    Reads plan (fun value => value.isWritable) (readSimple text) := by
  unfold readSimple
  split
  · trivial
  · next first text =>
    split
    · next found =>
      have word := readWord?_left found
      exact ⟨word.1, begins.left.trans word.2⟩
    · split
      · next minus =>
        subst minus
        have reads : ∀ outcome, readNumber true text = some outcome →
            Reads plan (fun value => value.isWritable) outcome :=
          fun _ => readNumber_reads begins (.inr rfl)
        split
        · next found => exact (reads _ found).result rfl
        · next found => exact (reads _ found).failed rfl
        · trivial
      · cases found : readNumber false (first :: text) with
        | none => trivial
        | some outcome =>
            change Begins plan ([] ++ first :: text) at begins
            exact readNumber_reads begins (.inl rfl) found

/-! ## Values -/

structure ReadsAt (plan text : List Char) : Prop where
  value : Begins plan text →
    Reads plan (fun value => value.isWritable) (readValue text)
  members : Left plan text →
    Reads plan (fun members => ∀ member ∈ members, member.2.isWritable)
      (readMembers text)
  furtherMembers : Left plan text →
    Reads plan (fun members => ∀ member ∈ members, member.2.isWritable)
      (readFurtherMembers text)
  items : Begins plan text →
    Reads plan (fun items => ∀ item ∈ items, item.isWritable) (readItems text)
  furtherItems : Left plan text →
    Reads plan (fun items => ∀ item ∈ items, item.isWritable)
      (readFurtherItems text)

section Readers

variable {plan text : List Char}
  (shorter : ∀ part : List Char, part.length < text.length →
    ReadsAt plan part)

include shorter

private theorem readValue_reads (begins : Begins plan text) :
    Reads plan (fun value => value.isWritable) (readValue text) := by
  unfold readValue
  split
  · exact readSimple_reads begins
  · next first tail =>
    have inner : ReadsAt plan (skipBlanks tail).1 := shorter _ <|
      Nat.lt_succ_of_le (skipBlanks tail).2
    have behind (noQuote : first ≠ '"') : Left plan tail :=
      begins.left.trans (Left.cons noQuote .refl)
    split
    · next quote =>
      subst quote
      have yields := readText_yields
        (fun count => Whole.longest < count ∧ HoldsWhole plan count)
        (tail.length + 1) tail
      split
      · next found => exact yields.failed found
      · next found =>
        exact ⟨by simp [Value.isWritable],
          begins.left.trans (.cons (yields.result found))⟩
    · next noQuote =>
      have behind : Left plan tail :=
        begins.left.trans (Left.cons noQuote .refl)
      split
      · split
        · next found =>
          exact ⟨by simp [Value.isWritable, Value.entriesAreWritable],
            behind.afterMark found (by decide)⟩
        · have reads := inner.members behind.blanks
          split
          · next found => exact reads.failed found
          · next members _ _ found =>
            have given := reads.result found
            refine ⟨?_, given.2⟩
            simp only [Value.isWritable]
            rw [Value.entriesAreWritable_iff, List.forall_mem_map]
            have each := @Entries.forall_mem_ofPairs String Value _ members
              (fun value => value.isWritable) given.1
            exact fun entry member =>
              ⟨by simp [Value.isWritable], each entry member⟩
      · split
        · next bracket =>
          have opens : Opens plan (skipBlanks tail).1 :=
            Opens.blanks ⟨first, by rw [bracket]; decide, begins.left⟩
          split
          · next found =>
            exact ⟨by simp [Value.isWritable, Value.areWritable],
              behind.afterMark found (by decide)⟩
          · have reads := inner.items (.inr opens)
            split
            · next found => exact reads.failed found
            · next found =>
              have given := reads.result found
              refine ⟨?_, given.2⟩
              simp only [Value.isWritable]
              exact Value.areWritable_iff.mpr given.1
        · exact readSimple_reads begins

private theorem readMembers_reads (left : Left plan text) :
    Reads plan (fun members => ∀ member ∈ members, member.2.isWritable)
      (readMembers text) := by
  unfold readMembers
  split
  · next tail =>
    have yields := readText_yields
      (fun count => Whole.longest < count ∧ HoldsWhole plan count)
      (tail.length + 1) tail
    split
    · next found => exact yields.failed found
    · next found =>
      have afterKey := left.trans (.cons (yields.result found))
      split
      · trivial
      · next afterColon _ found =>
        have opens : Opens plan (skipBlanks afterColon).1 :=
          Opens.blanks
            ⟨':', by decide, afterKey.trans (left_of_afterMark? found)⟩
        have blanks := (skipBlanks afterColon).2
        simp only [List.length_cons] at shorter
        dsimp only
        have reads := (shorter _ (by omega)).value (.inr opens)
        split
        · next found => exact reads.failed found
        · next found =>
          have given := reads.result found
          dsimp only at given
          have further := (shorter _ (by omega)).furtherMembers given.2
          split
          · next found => exact further.failed found
          · next found =>
            have more := further.result found
            exact ⟨List.forall_mem_cons.mpr ⟨given.1, more.1⟩, more.2⟩
  · trivial

private theorem readFurtherMembers_reads (left : Left plan text) :
    Reads plan (fun members => ∀ member ∈ members, member.2.isWritable)
      (readFurtherMembers text) := by
  unfold readFurtherMembers
  split
  · next found => exact ⟨by simp, left.afterMark found (by decide)⟩
  · trivial
  · next afterComma _ _ found =>
    have next := (left.afterMark found (by decide)).blanks
    have blanks := (skipBlanks afterComma).2
    dsimp only at next ⊢
    have reads := (shorter _ (by omega)).members next
    split
    · next found => exact reads.failed found
    · next found => exact reads.result found

private theorem readItems_reads (begins : Begins plan text) :
    Reads plan (fun items => ∀ item ∈ items, item.isWritable)
      (readItems text) := by
  unfold readItems
  have reads := readValue_reads shorter begins
  split
  · next found => exact reads.failed found
  · next found =>
    have given := reads.result found
    dsimp only at given
    have further := (shorter _ (by omega)).furtherItems given.2
    split
    · next found => exact further.failed found
    · next found =>
      have more := further.result found
      exact ⟨List.forall_mem_cons.mpr ⟨given.1, more.1⟩, more.2⟩

private theorem readFurtherItems_reads (left : Left plan text) :
    Reads plan (fun items => ∀ item ∈ items, item.isWritable)
      (readFurtherItems text) := by
  unfold readFurtherItems
  split
  · next found => exact ⟨by simp, left.afterMark found (by decide)⟩
  · trivial
  · next afterComma _ _ found =>
    have opens : Opens plan (skipBlanks afterComma).1 :=
      Opens.blanks ⟨',', by decide, left.trans (left_of_afterMark? found)⟩
    have blanks := (skipBlanks afterComma).2
    dsimp only
    have reads := (shorter _ (by omega)).items (.inr opens)
    split
    · next found => exact reads.failed found
    · next found => exact reads.result found

end Readers

theorem readsAt (plan text : List Char) : ReadsAt plan text := by
  induction length : text.length using Nat.strongRecOn generalizing text with
  | _ length ih =>
      subst length
      have shorter : ∀ part : List Char, part.length < text.length →
          ReadsAt plan part := fun part less => ih _ less part rfl
      exact {
        value := readValue_reads shorter
        members := readMembers_reads shorter
        furtherMembers := readFurtherMembers_reads shorter
        items := readItems_reads shorter
        furtherItems := readFurtherItems_reads shorter }

theorem readValue_begins (plan : List Char) :
    Reads plan (fun value => value.isWritable)
      (readValue (skipBlanks plan).1) :=
  (readsAt plan _).value (skipBlanks_begins plan)

theorem isWritable_of_read {plan : List Char} {value : Value}
    (accepted : read plan = .ok value) : value.isWritable := by
  unfold read at accepted
  split at accepted
  · cases accepted
  · split at accepted
    · cases accepted
    · next found =>
      split at accepted
      · cases accepted
        exact ((readValue_begins plan).result found).1
      · cases accepted

theorem holdsWhole_of_read {plan : List Char} {count : Nat}
    (refused : read plan = .error (.oversizedInteger count)) :
    Whole.longest < count ∧ HoldsWhole plan count := by
  unfold read at refused
  split at refused
  · cases refused
  · split at refused
    · next found =>
      cases refused
      have reads := readValue_begins plan
      rw [found] at reads
      exact reads
    · split at refused <;> cases refused

end StructuredCql.Json
