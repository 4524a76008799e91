import SceneScript.Text.LetterTable
import SceneScript.Text.PrintTable

/-!
Classes of characters. Below U+0080 they are core's own classes; beyond, tables of the Unicode
properties decide.
-/

namespace SceneScript.Text

/-- Membership in ascending ranges; the search ends at the first range that starts later. -/
def inRanges : List (Nat × Nat) → Nat → Bool
  | [], _ => false
  | (first, last) :: rest, n => if n < first then false else n ≤ last || inRanges rest n

/-- White space, the four ASCII separators U+001C to U+001F among it. -/
def isBlank (c : Char) : Bool :=
  inRanges [(0x09, 0x0D), (0x1C, 0x20), (0x85, 0x85), (0xA0, 0xA0), (0x1680, 0x1680), (0x2000, 0x200A),
    (0x2028, 0x2029), (0x202F, 0x202F), (0x205F, 0x205F), (0x3000, 0x3000)] c.toNat

/-- The blanks between two tokens of a statement; any other white space is a token of its own. -/
def isGap (c : Char) : Bool := c == ' ' || c == '\t'

/-- The ten ASCII digits. Digits of other scripts are word characters but no digits. -/
def isDigit (c : Char) : Bool := '0' ≤ c && c ≤ '9'

def isHexDigit (c : Char) : Bool := isDigit c || 'a' ≤ c && c ≤ 'f' || 'A' ≤ c && c ≤ 'F'

def isLetter (c : Char) : Bool :=
  if c.toNat < 0x80 then c.isAlpha else inRanges letterRanges c.toNat

/-- Letters and numerals of any script, and the underscore. -/
def isWordChar (c : Char) : Bool :=
  if c.toNat < 0x80 then c.isAlphanum || c == '_'
  else inRanges letterRanges c.toNat || inRanges numeralRanges c.toNat

/-- The zeros of all scripts; the nine digits after zero follow each. -/
def zeros : List Nat := [
  0x0030, 0x0660, 0x06F0, 0x07C0, 0x0966, 0x09E6, 0x0A66, 0x0AE6, 0x0B66, 0x0BE6, 0x0C66, 0x0CE6, 0x0D66,
  0x0DE6, 0x0E50, 0x0ED0, 0x0F20, 0x1040, 0x1090, 0x17E0, 0x1810, 0x1946, 0x19D0, 0x1A80, 0x1A90, 0x1B50,
  0x1BB0, 0x1C40, 0x1C50, 0xA620, 0xA8D0, 0xA900, 0xA9D0, 0xA9F0, 0xAA50, 0xABF0, 0xFF10, 0x104A0,
  0x10D30, 0x11066, 0x110F0, 0x11136, 0x111D0, 0x112F0, 0x11450, 0x114D0, 0x11650, 0x116C0, 0x11730,
  0x118E0, 0x11950, 0x11C50, 0x11D50, 0x11DA0, 0x16A60, 0x16AC0, 0x16B50, 0x1D7CE, 0x1D7D8, 0x1D7E2,
  0x1D7EC, 0x1D7F6, 0x1E140, 0x1E2F0, 0x1E950, 0x1FBF0]

/-- The decimal digits of any script. -/
def isDecimal (c : Char) : Bool := zeros.any fun first => first ≤ c.toNat && c.toNat < first + 10

/-- The characters a word may begin with unless it is led by digits. -/
def isWordStart (c : Char) : Bool := isLetter c || c == '_'

/-- The characters that a quoted text shows as they are. -/
def isPrintable (c : Char) : Bool :=
  if c.toNat < 0x80 then 0x20 ≤ c.toNat && c.toNat < 0x7F else inRanges printableRanges c.toNat

theorem isWordChar_of_isLetter {c : Char} (h : isLetter c = true) : isWordChar c = true := by
  unfold isLetter at h
  unfold isWordChar
  split at h <;> simp_all [Char.isAlphanum]

theorem isWordChar_of_isWordStart {c : Char} (h : isWordStart c = true) : isWordChar c = true := by
  rcases Bool.or_eq_true _ _ |>.mp h with h | h
  · exact isWordChar_of_isLetter h
  · have : c = '_' := by simpa using h
    subst this; decide

end SceneScript.Text
