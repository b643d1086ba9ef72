import StructuredCql.Text.Basic
import StructuredCql.Text.Printable

/-!
# Quoted text

Texts and byte strings as they are shown inside messages.  An apostrophe is
the usual mark; a text that holds apostrophes but no double quote is put in
double quotes.  Whatever does not print is written as an escape.
-/

namespace StructuredCql.Text

def quoteMark (holdsApostrophe holdsDouble : Bool) : Char :=
  if holdsApostrophe && !holdsDouble then '"' else '\''

def lineEscape? (point : Nat) : Option String :=
  if point = 9 then some "\\t"
  else if point = 10 then some "\\n"
  else if point = 13 then some "\\r"
  else none

def pointEscape (point : Nat) : String :=
  if point < 0x100 then "\\x" ++ paddedHex 2 point
  else if point < 0x10000 then "\\u" ++ paddedHex 4 point
  else "\\U" ++ paddedHex 8 point

def quotedCharacter (mark character : Char) : String :=
  if character = mark ∨ character = '\\' then
    "\\" ++ character.toString
  else match lineEscape? character.toNat with
    | some escape => escape
    | none =>
        if isPrintable character then character.toString
        else pointEscape character.toNat

def quoted (text : String) : String :=
  let characters := text.toList
  let mark := quoteMark (characters.contains '\'') (characters.contains '"')
  mark.toString ++ String.join (characters.map (quotedCharacter mark)) ++
    mark.toString

def quotedByte (escaped : UInt8 → Bool) (byte : UInt8) : String :=
  let point := byte.toNat
  if escaped byte || point = 0x5C then
    "\\" ++ (Char.ofNat point).toString
  else match lineEscape? point with
    | some escape => escape
    | none =>
        if 0x20 ≤ point ∧ point < 0x7F then (Char.ofNat point).toString
        else pointEscape point

def byteMark (bytes : List UInt8) : Char :=
  quoteMark (bytes.contains 0x27) (bytes.contains 0x22)

def quotedBytes (bytes : List UInt8) : String :=
  let mark := byteMark bytes
  "b" ++ mark.toString ++
    String.join (bytes.map (quotedByte fun byte => byte.toNat = mark.toNat)) ++
    mark.toString

/-- In a mutable byte string the apostrophe is escaped whatever the mark is,
and the double quote never. -/
def quotedByteArray (bytes : List UInt8) : String :=
  let mark := byteMark bytes
  "b" ++ mark.toString ++
    String.join (bytes.map (quotedByte fun byte => byte = 0x27)) ++
    mark.toString

end StructuredCql.Text
