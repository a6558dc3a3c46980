/-
# Lines of a report

A compiler report is cut at every character that ends a line or separates pages
or records, and a carriage return with a line feed behind it ends one line, not
two. An ending break opens no further line, unlike in `Text.lines`.
-/

import Transcompiler.Text.Basic

namespace Transcompiler.Text

/-- The code points that end a line of a report. -/
def lineBreakRanges : List CodeRange :=
  [⟨0x0A, 0x0D⟩, ⟨0x1C, 0x1E⟩, ⟨0x85, 0x85⟩, ⟨0x2028, 0x2029⟩]

/-- Whether a character ends a line of a report. -/
def isLineBreak (c : Char) : Bool :=
  lineBreakRanges.any (·.contains c)

/-- The lines of a report, without their line breaks. -/
def reportLines : Text → List Text
  | [] => []
  | '\r' :: '\n' :: cs => [] :: reportLines cs
  | c :: cs =>
    if isLineBreak c then [] :: reportLines cs
    else match reportLines cs with
      | [] => [[c]]
      | line :: rest => (c :: line) :: rest

end Transcompiler.Text
