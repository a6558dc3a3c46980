/-
# Text as a list of characters

Every text that the transcompiler cuts, counts in or edits is the list of its
characters. An offset is then a position in a list and counts code points, and
the facts about cutting and joining are the facts about `take`, `drop` and `++`.
Texts that are only carried along and shown, such as file names and finished
messages, stay strings.
-/

namespace Transcompiler

/-- A text is the list of its characters. -/
abbrev Text := List Char

/-- A closed range of code points. -/
structure CodeRange where
  /-- The first code point of the range. -/
  first : Nat
  /-- The last code point of the range. -/
  last : Nat
deriving DecidableEq, Repr

namespace CodeRange

/-- Whether the code point of a character lies in the range. -/
def contains (range : CodeRange) (c : Char) : Bool :=
  range.first ≤ c.toNat && c.toNat ≤ range.last

end CodeRange

namespace Text

/-- The characters from offset `start` up to, and without, offset `stop`. -/
def slice (text : Text) (start stop : Nat) : Text :=
  (text.take stop).drop start

/-- The parts of a text between the occurrences of a character. There is one more
part than there are occurrences, and parts may be empty, so joining the parts by
the character gives the text back. -/
def splitAtEvery (separator : Char) : Text → List Text
  | [] => [[]]
  | c :: cs =>
    if c = separator then [] :: splitAtEvery separator cs
    else (splitAtEvery separator cs).modifyHead (c :: ·)

theorem splitAtEvery_ne_nil (separator : Char) (text : Text) :
    splitAtEvery separator text ≠ [] := by
  induction text with
  | nil => simp [splitAtEvery]
  | cons c cs ih =>
    rw [splitAtEvery]
    split
    · simp
    · cases hparts : splitAtEvery separator cs with
      | nil => exact absurd hparts ih
      | cons part parts => simp

/-- The lines of a text. Only a line feed ends a line, and a text that ends in
one has an empty last line. -/
def lines (text : Text) : List Text :=
  splitAtEvery '\n' text

/-- Joins lines by line feeds. -/
def unlines (parts : List Text) : Text :=
  List.intercalate ['\n'] parts

/-- A number right-aligned in three columns. The sign takes a column of its own,
and a number that needs more columns takes them. -/
def alignedInThree (n : Int) : String :=
  let digits := toString n
  String.ofList (List.replicate (3 - digits.length) ' ') ++ digits

end Text

end Transcompiler
