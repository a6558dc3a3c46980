/-
# Diagnostics

A diagnostic is one message of the Java compiler about a unit. Lines and columns
are numbered from one; the numbers zero mark a diagnostic without a place. What
the compiler adds to its message stands on further lines of the text.
-/

import Transcompiler.Breakdown

namespace Transcompiler

/-- The kinds of diagnostics. -/
inductive DiagnosticKind where
  | error
  | mandatoryWarning
  | note
  | other
  | warning
deriving DecidableEq, Repr

namespace DiagnosticKind

/-- All kinds, in the order in which they are counted up. -/
def all : List DiagnosticKind := [.error, .mandatoryWarning, .note, .other, .warning]

/-- The name of a kind within a message. -/
def name : DiagnosticKind → String
  | .error => "error"
  | .mandatoryWarning => "mandatory warning"
  | .note => "note"
  | .other => "other"
  | .warning => "warning"

/-- The name of a kind in a list of kinds. -/
def label : DiagnosticKind → String
  | .error => "Error"
  | .mandatoryWarning => "Mandatory Warning"
  | .note => "Note"
  | .other => "Other"
  | .warning => "Warning"

end DiagnosticKind

/-- A message of the Java compiler. -/
structure Diagnostic where
  /-- The kind of the message. -/
  kind : DiagnosticKind
  /-- The line that it is about. -/
  line : Int
  /-- The column that it is about. -/
  column : Int
  /-- The message, and its details on further lines. -/
  message : Text
deriving DecidableEq, Repr

namespace Diagnostic

/-- Whether the message is about a place. -/
def hasPosition (diagnostic : Diagnostic) : Bool :=
  0 < diagnostic.line

/-- The first line of the message. -/
def headline (diagnostic : Diagnostic) : Text :=
  diagnostic.message.takeWhile (· ≠ '\n')

/-- The place of a diagnostic in a file, unless a number in it has too many digits. -/
def location (diagnostic : Diagnostic) (file : String) : Except Breakdown String := do
  let line ← Text.written diagnostic.line
  let column ← Text.written diagnostic.column
  return file ++ ":" ++ line ++ ":" ++ column

end Diagnostic

end Transcompiler
