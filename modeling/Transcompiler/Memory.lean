/-
# The memory

A text can be too long to be counted off, or too long for the memory. How much fits
depends on the machine, so what makes long texts is told how much room there is. The
only such text is the line with a caret below a quoted line, because a compiler may
name a column that no line reaches.
-/

namespace Transcompiler

/-- The largest number of characters that can be counted off. -/
def countLimit : Nat := 0x7FFFFFFFFFFFFFFF

/-- How much room there is for a text. -/
structure Memory where
  /-- The largest number of blanks that fit in front of a caret. -/
  blanks : Nat
  /-- What fits can be counted off. -/
  blanks_le : blanks ≤ countLimit

end Transcompiler
