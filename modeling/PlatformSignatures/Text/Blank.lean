/-!
# Blank text

The white space of Unicode: the characters of the property `White_Space`.  A text is blank when it
has no other character; the empty text is blank.
-/

namespace PlatformSignatures.Text

/-- Whether a character is white space. -/
def isSpace (c : Char) : Bool :=
  let n := c.toNat
  (9 ≤ n && n ≤ 13) || n == 32 || n == 0x85 || n == 0xA0 || n == 0x1680 ||
  (0x2000 ≤ n && n ≤ 0x200A) || n == 0x2028 || n == 0x2029 || n == 0x202F || n == 0x205F ||
  n == 0x3000

/-- Whether a text consists of white space only. -/
def isBlank (s : String) : Bool :=
  s.toList.all isSpace

/-- A text without the white space at its two ends. -/
def strip (s : String) : String :=
  String.ofList ((s.toList.dropWhile isSpace).reverse.dropWhile isSpace).reverse

/-- The non-breaking space, written between a type and the name it qualifies. -/
def nbsp : Char := Char.ofNat 0xA0

/-- A text with every non-breaking space turned into a plain one. -/
def plainSpaces (s : String) : String :=
  String.ofList (s.toList.map fun c => if c = nbsp then ' ' else c)

end PlatformSignatures.Text
