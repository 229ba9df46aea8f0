import EmacsBatch.Text.Ranges

/-!
# Blank texts

A text is blank when nothing is left of it once white space is trimmed from both ends,
which is to say when all its characters are white space.
-/

namespace EmacsBatch.Text

/-- The characters with the property White_Space. -/
def whiteSpace : CharRanges := [
  (0x9, 0xD), (0x20, 0x20), (0x85, 0x85), (0xA0, 0xA0), (0x1680, 0x1680), (0x2000, 0x200A),
  (0x2028, 0x2029), (0x202F, 0x202F), (0x205F, 0x205F), (0x3000, 0x3000)]

/-- The text without the white space at its two ends. -/
def trim (s : String) : String :=
  let started := s.toList.dropWhile whiteSpace.contains
  String.ofList (started.reverse.dropWhile whiteSpace.contains).reverse

/-- Whether trimming leaves nothing. -/
def isBlank (s : String) : Bool := trim s = ""

end EmacsBatch.Text
