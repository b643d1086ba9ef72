import StructuredCql.Text.Basic

/-!
# Texts that are written as they come

The unquoted names of a statement and the hint at its end are the only texts
of a caller that a statement takes over without a quote.
-/

namespace StructuredCql.Text

/-! ## Identifiers

A letter or an underscore, then letters, digits and underscores, all of ASCII.
One line break at the very end is let through.
-/

def isIdentifierStart (character : Char) : Bool :=
  character.isAlpha || character = '_'

def isIdentifierPart (character : Char) : Bool :=
  character.isAlphanum || character = '_'

/-- All characters continue a name, except that the last may be a line
break. -/
def isIdentifierTail : List Char → Bool
  | [] => true
  | ['\n'] => true
  | character :: rest => isIdentifierPart character && isIdentifierTail rest

def isIdentifier : List Char → Bool
  | [] => false
  | first :: rest => isIdentifierStart first && isIdentifierTail rest

/-! ## Capital letters

The capital form of a character, where that form consists of ASCII letters.
All other characters stand for themselves, since their capital forms hold a
character outside ASCII; a comparison with a text of ASCII capitals cannot
tell the difference.
-/

def capitals (character : Char) : List Char :=
  if character.isLower then [character.toUpper]
  else match character.toNat with
    | 0x00DF => ['S', 'S']
    | 0x0131 => ['I']
    | 0x017F => ['S']
    | 0xFB00 => ['F', 'F']
    | 0xFB01 => ['F', 'I']
    | 0xFB02 => ['F', 'L']
    | 0xFB03 => ['F', 'F', 'I']
    | 0xFB04 => ['F', 'F', 'L']
    | 0xFB05 => ['S', 'T']
    | 0xFB06 => ['S', 'T']
    | _ => [character]

def capitalized (text : List Char) : List Char :=
  text.flatMap capitals

/-! ## The filtering hint

The only hint that a statement may end with.  The case of its letters and the
blanks around and between its two words do not count.
-/

def filteringHint : List (List Char) :=
  ["ALLOW".toList, "FILTERING".toList]

def singleSpaced : List (List Char) → List Char
  | [] => []
  | [word] => word
  | word :: next :: rest => word ++ ' ' :: singleSpaced (next :: rest)

def isFilteringHint (text : List Char) : Bool :=
  capitalized (singleSpaced (words text)) = singleSpaced filteringHint

end StructuredCql.Text
