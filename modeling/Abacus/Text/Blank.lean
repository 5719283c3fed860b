import Abacus.Text.Runs

/-!
# White space

White space is the Unicode property `White_Space`, which holds of twenty-five characters. Letters
and digits, on the other hand, are the ASCII ones throughout (`Char.isAlpha`, `Char.isDigit`).

- `isBlank`: the white-space test.
- `Text.trim`: a text without the white space at its two ends.
- `Text.pieces`: the maximal runs of characters that are not white.
-/

namespace Abacus

/-- The code points of white space, as closed intervals in increasing order. -/
def blankRanges : List (Nat × Nat) :=
  [(0x9, 0xD), (0x20, 0x20), (0x85, 0x85), (0xA0, 0xA0), (0x1680, 0x1680), (0x2000, 0x200A),
   (0x2028, 0x2029), (0x202F, 0x202F), (0x205F, 0x205F), (0x3000, 0x3000)]

/-- Whether a character is white space. -/
def isBlank (c : Char) : Bool :=
  blankRanges.any fun r => r.1 ≤ c.toNat && c.toNat ≤ r.2

namespace Text

/-- The text without the white space that it starts with. -/
def trimStart (s : Text) : Text :=
  s.dropWhile isBlank

/-- The text without the white space that it ends with. -/
def trimEnd (s : Text) : Text :=
  (s.reverse.dropWhile isBlank).reverse

/-- The text without the white space at its two ends. -/
def trim (s : Text) : Text :=
  s.trimStart.trimEnd

/-- The maximal runs of characters that are not white, in order. -/
def pieces (s : Text) : List Text :=
  (runs (fun c d => !isBlank c && !isBlank d) s).filter fun p => !p.all isBlank

end Text

end Abacus
