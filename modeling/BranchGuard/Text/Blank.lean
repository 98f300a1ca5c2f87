import BranchGuard.Text.Ranges

/-!
# Blank text

A name that consists of white space alone counts as missing everywhere in the engine.  White
space is the Unicode property `White_Space`; the byte order mark U+FEFF does not have it.
-/

namespace BranchGuard.Text

/-- The code points with the property `White_Space`. -/
def blankRanges : List (Nat × Nat) :=
  [(0x0009, 0x000D), (0x0020, 0x0020), (0x0085, 0x0085), (0x00A0, 0x00A0), (0x1680, 0x1680),
   (0x2000, 0x200A), (0x2028, 0x2029), (0x202F, 0x202F), (0x205F, 0x205F), (0x3000, 0x3000)]

/-- Whether the character is white space. -/
def isBlankChar (c : Char) : Bool :=
  isIn blankRanges c

/-- Whether the text holds nothing but white space; the empty text does. -/
def isBlank (text : String) : Bool :=
  text.toList.all isBlankChar

end BranchGuard.Text
