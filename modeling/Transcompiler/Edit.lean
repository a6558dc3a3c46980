/-
# Edits of a text

An edit replaces the characters of a span. Edits of one text are given by the
offsets of that text, so they are applied from the last span to the first: an
edit then never moves a span that is still to be edited.
-/

import Transcompiler.Text.Basic

namespace Transcompiler

/-- Replaces the characters from `start` up to, and without, `stop`. With equal
offsets it inserts. -/
structure Edit where
  /-- The offset of the first character of the span. -/
  start : Nat
  /-- The offset behind the last character of the span. -/
  stop : Nat
  /-- What stands there afterwards. -/
  replacement : Text
deriving DecidableEq, Repr

namespace Edit

/-- A text with one edit applied. -/
def apply (text : Text) (edit : Edit) : Text :=
  text.take edit.start ++ (edit.replacement ++ text.drop edit.stop)

/-- Edits in the order in which they are applied: later spans first. -/
def backToFront (edits : List Edit) : List Edit :=
  edits.mergeSort fun a b => b.start ≤ a.start

/-- A text with edits of it applied. -/
def applyAll (text : Text) (edits : List Edit) : Text :=
  (backToFront edits).foldl apply text

end Edit

end Transcompiler
