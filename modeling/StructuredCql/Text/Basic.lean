/-!
# Texts

Lists of texts, digits in base ten and in base sixteen, blank characters, and
texts from bytes.
-/

namespace StructuredCql.Text

/-! ## Lists of texts -/

def joined (separator : String) : List String → String
  | [] => ""
  | [text] => text
  | text :: next :: rest => text ++ separator ++ joined separator (next :: rest)

def ascending (texts : List String) : List String :=
  texts.mergeSort fun left right => decide (left ≤ right)

/-! ## Digits -/

def paddedDigits (width value : Nat) : String :=
  let digits := Nat.toDigits 10 value
  String.ofList (List.replicate (width - digits.length) '0' ++ digits)

/-- Lower-case base sixteen, with zeros in front up to the asked width. -/
def paddedHex (width value : Nat) : String :=
  let digits := Nat.toDigits 16 value
  String.ofList (List.replicate (width - digits.length) '0' ++ digits)

def hexBytes : List UInt8 → String
  | [] => ""
  | byte :: rest => paddedHex 2 byte.toNat ++ hexBytes rest

def hexDigitValue? (character : Char) : Option Nat :=
  if '0' ≤ character ∧ character ≤ '9' then
    some (character.toNat - '0'.toNat)
  else if 'a' ≤ character ∧ character ≤ 'f' then
    some (character.toNat - 'a'.toNat + 10)
  else if 'A' ≤ character ∧ character ≤ 'F' then
    some (character.toNat - 'A'.toNat + 10)
  else
    none

def digitsValue (digits : List Char) : Nat :=
  digits.foldl (fun value digit => 10 * value + (digit.toNat - '0'.toNat)) 0

/-! ## Blanks

Two sets of blanks are in use.  The first is the white-space property of the
character standard; the second adds the four information separators of ASCII.
-/

def whiteSpaceRanges : List (Nat × Nat) :=
  [(0x9, 0xD), (0x20, 0x20), (0x85, 0x85), (0xA0, 0xA0), (0x1680, 0x1680),
   (0x2000, 0x200A), (0x2028, 0x2029), (0x202F, 0x202F), (0x205F, 0x205F),
   (0x3000, 0x3000)]

def inRanges (ranges : List (Nat × Nat)) (point : Nat) : Bool :=
  ranges.any fun range => range.1 ≤ point && point ≤ range.2

def isWhiteSpace (character : Char) : Bool :=
  inRanges whiteSpaceRanges character.toNat

def isBlank (character : Char) : Bool :=
  isWhiteSpace character || inRanges [(0x1C, 0x1F)] character.toNat

def trimmed (isEdge : Char → Bool) (text : List Char) : List Char :=
  ((text.dropWhile isEdge).reverse.dropWhile isEdge).reverse

/-- The longest runs of characters that are not blank, from the left. -/
def words (text : List Char) : List (List Char) :=
  let step := fun (character : Char) (found : List Char × List (List Char)) =>
    if isBlank character then
      ([], if found.1.isEmpty then found.2 else found.1 :: found.2)
    else
      (character :: found.1, found.2)
  let found := text.foldr step ([], [])
  if found.1.isEmpty then found.2 else found.1 :: found.2

/-! ## Text from bytes

Decodes UTF-8.  Overlong forms, surrogates and values beyond the last code
point are refused, so every text has one encoding.
-/

def continuationBits? (byte : UInt8) : Option Nat :=
  if 0x80 ≤ byte.toNat ∧ byte.toNat < 0xC0 then some (byte.toNat - 0x80)
  else none

def shortestCharacter? (least point : Nat) : Option Char :=
  if least ≤ point ∧ point.isValidChar then some (Char.ofNat point) else none

def decodeUtf8 : List UInt8 → Option (List Char)
  | [] => some []
  | first :: rest =>
      if first.toNat < 0x80 then do
        pure (Char.ofNat first.toNat :: (← decodeUtf8 rest))
      else if 0xC0 ≤ first.toNat ∧ first.toNat < 0xE0 then
        match rest with
        | second :: rest => do
            let low ← continuationBits? second
            let character ←
              shortestCharacter? 0x80 ((first.toNat - 0xC0) * 64 + low)
            pure (character :: (← decodeUtf8 rest))
        | [] => none
      else if 0xE0 ≤ first.toNat ∧ first.toNat < 0xF0 then
        match rest with
        | second :: third :: rest => do
            let middle ← continuationBits? second
            let low ← continuationBits? third
            let character ← shortestCharacter? 0x800
              ((first.toNat - 0xE0) * 4096 + middle * 64 + low)
            pure (character :: (← decodeUtf8 rest))
        | _ => none
      else if 0xF0 ≤ first.toNat ∧ first.toNat < 0xF8 then
        match rest with
        | second :: third :: fourth :: rest => do
            let high ← continuationBits? second
            let middle ← continuationBits? third
            let low ← continuationBits? fourth
            let character ← shortestCharacter? 0x10000
              ((first.toNat - 0xF0) * 262144 + high * 4096 + middle * 64 + low)
            pure (character :: (← decodeUtf8 rest))
        | _ => none
      else
        none

end StructuredCql.Text
