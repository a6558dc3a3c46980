/-
# White space

The white space of the lexical rules, of trimmed names and of compiler reports is
one class: the Unicode space characters together with the control characters
that separate lines, pages and records.
-/

import Transcompiler.Text.Basic

namespace Transcompiler.Text

/-- The code points of white space. -/
def blankRanges : List CodeRange :=
  [⟨0x09, 0x0D⟩, ⟨0x1C, 0x20⟩, ⟨0x85, 0x85⟩, ⟨0xA0, 0xA0⟩, ⟨0x1680, 0x1680⟩, ⟨0x2000, 0x200A⟩,
    ⟨0x2028, 0x2029⟩, ⟨0x202F, 0x202F⟩, ⟨0x205F, 0x205F⟩, ⟨0x3000, 0x3000⟩]

/-- Whether a character is white space. -/
def isBlank (c : Char) : Bool :=
  blankRanges.any (·.contains c)

/-- A text without the white space at its two ends. -/
def strip (text : Text) : Text :=
  ((text.dropWhile isBlank).reverse.dropWhile isBlank).reverse

end Transcompiler.Text
