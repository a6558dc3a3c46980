/-
# Reading the report of the Java compiler

A report is a sequence of lines. A heading opens a diagnostic; the lines below it
belong to that diagnostic up to the next heading or to a count of errors or
warnings. Below a heading with a place the first line is the quoted source, which
is passed over, and a line with nothing but a caret gives the column. All other
lines that are not blank are details. A line outside of every diagnostic is a
diagnostic of its own.

Only the form of a line decides what it is, so a quoted source line that has the
form of a heading is taken for one.
-/

import Transcompiler.Diagnostic.Basic
import Transcompiler.Text.Blank
import Transcompiler.Text.Decimal
import Transcompiler.Text.LineBreak

namespace Transcompiler

/-- A line number in a report has more digits than are read. -/
structure LineNumberTooLong where
  /-- How many digits it has. -/
  digits : Nat
deriving DecidableEq, Repr

namespace LineNumberTooLong

/-- The text of the fault. -/
def message (fault : LineNumberTooLong) : String :=
  "Exceeds the limit (" ++ toString Text.digitLimit ++ " digits) for integer string conversion" ++
    ": value has " ++ toString fault.digits ++
    " digits; use sys.set_int_max_str_digits() to increase the limit"

end LineNumberTooLong

namespace Report

/-- The words with which a heading names its severity. -/
inductive Severity where
  | error
  | warning
  | note
deriving DecidableEq, Repr

/-- The categories of warnings that the compiler may not leave out. -/
def mandatoryCategories : List String :=
  ["[deprecation]", "[removal]", "[unchecked]", "[preview]"]

/-- The kind of a diagnostic with a severity and a message. -/
def Severity.kind (severity : Severity) (message : Text) : DiagnosticKind :=
  match severity with
  | .error => .error
  | .note => .note
  | .warning =>
    if mandatoryCategories.any (·.toList.isPrefixOf message) then .mandatoryWarning else .warning

/-- The opening of a diagnostic: what it is, the digits of its line number if it
names a place, and its message. -/
structure Heading where
  /-- The kind of the diagnostic. -/
  kind : DiagnosticKind
  /-- The digits of the line number, empty without a place. -/
  digits : Text
  /-- The message. -/
  message : Text
deriving DecidableEq, Repr

/-- The severity at the front of a text, and the message behind it. -/
def severity? (text : Text) : Option (Severity × Text) :=
  (("error: ".toList.isPrefixOf? text).map (Severity.error, ·)) <|>
  (("warning: ".toList.isPrefixOf? text).map (Severity.warning, ·)) <|>
  (("note: ".toList.isPrefixOf? text).map (Severity.note, ·))

/-- The heading whose path ends in front of the text: a colon, the line number, a
colon and a space, and the severity with the message. -/
def headingBehindPath? : Text → Option Heading
  | ':' :: text =>
    let digits := text.takeWhile Text.isDecimal
    match text.dropWhile Text.isDecimal with
    | ':' :: ' ' :: rest =>
      if digits = [] then none
      else (severity? rest).map fun (severity, message) =>
        ⟨severity.kind message, digits, message⟩
    | _ => none
  | _ => none

/-- The heading with a place that a line is. Its path is not empty, and as short
as possible. -/
def placedHeading? : Text → Option Heading
  | [] => none
  | _ :: rest => headingBehindPath? rest <|> placedHeading? rest

/-- The heading without a place that a line is. -/
def unplacedHeading? (line : Text) : Option Heading :=
  (("error: ".toList.isPrefixOf? line).map fun message =>
    ⟨Severity.error.kind message, [], message⟩) <|>
  (("warning: ".toList.isPrefixOf? line).map fun message =>
    ⟨Severity.warning.kind message, [], message⟩) <|>
  (("Note: ".toList.isPrefixOf? line).map fun message => ⟨.note, [], message⟩)

/-- Whether a line says how many errors or warnings there were. -/
def isCount (line : Text) : Bool :=
  let stripped := Text.strip line
  stripped.takeWhile Text.isDecimal ≠ [] &&
    [" error", " errors", " warning", " warnings"].any
      (·.toList = stripped.dropWhile Text.isDecimal)

/-- What a line of a report is. -/
inductive Line where
  /-- The opening of a diagnostic. -/
  | heading (kind : DiagnosticKind) (line : Nat) (message : Text)
  /-- A count, which closes the diagnostic in front of it. -/
  | count
  /-- Any other line. -/
  | body (text : Text)
deriving DecidableEq, Repr

/-- What a line of a report is, unless its line number is too long. -/
def Line.ofText (text : Text) : Except LineNumberTooLong Line :=
  match placedHeading? text <|> unplacedHeading? text with
  | some opening =>
    if Text.digitLimit < opening.digits.length then .error ⟨opening.digits.length⟩
    else .ok (.heading opening.kind (Text.decimalValue opening.digits) opening.message)
  | none => .ok (if isCount text then .count else .body text)

/-- A diagnostic whose lines are being read. A column of zero is not known yet. -/
structure Pending where
  /-- The kind of the diagnostic. -/
  kind : DiagnosticKind
  /-- The line that it is about, zero without a place. -/
  line : Nat
  /-- The message of the heading. -/
  message : Text
  /-- The column that it is about. -/
  column : Nat := 0
  /-- Whether the quoted source has been passed over. -/
  sourceSeen : Bool := false
  /-- The details so far. -/
  details : List Text := []
deriving DecidableEq, Repr

namespace Pending

/-- Takes a further line into a diagnostic. -/
def absorb (pending : Pending) (text : Text) : Pending :=
  let stripped := Text.strip text
  if pending.line ≠ 0 ∧ ¬pending.sourceSeen then { pending with sourceSeen := true }
  else if stripped = [] then pending
  else if pending.line ≠ 0 ∧ pending.column = 0 ∧ stripped = ['^'] then
    { pending with column := (text.takeWhile (· ≠ '^')).length + 1 }
  else { pending with details := pending.details ++ [stripped] }

/-- The diagnostic when all its lines are read. With a place but no caret it is
about the first column. -/
def diagnostic (pending : Pending) : Diagnostic where
  kind := pending.kind
  line := pending.line
  column :=
    if pending.column ≠ 0 then pending.column else if pending.line ≠ 0 then 1 else 0
  message := Text.unlines (pending.message :: pending.details)

end Pending

/-- The diagnostics of the lines of a report, where the first lines may belong to a
diagnostic that is open already. -/
def diagnosticsFrom : Option Pending → List Line → List Diagnostic
  | open?, [] => (open?.map (·.diagnostic)).toList
  | open?, .heading kind line message :: lines =>
    (open?.map (·.diagnostic)).toList ++
      diagnosticsFrom (some { kind := kind, line := line, message := message }) lines
  | open?, .count :: lines =>
    (open?.map (·.diagnostic)).toList ++ diagnosticsFrom none lines
  | some pending, .body text :: lines => diagnosticsFrom (some (pending.absorb text)) lines
  | none, .body text :: lines =>
    let stripped := Text.strip text
    if stripped = [] then diagnosticsFrom none lines
    else ⟨.other, 0, 0, stripped⟩ :: diagnosticsFrom none lines

/-- The diagnostics of a report. -/
def parse (text : Text) : Except LineNumberTooLong (List Diagnostic) := do
  let lines ← (Text.reportLines text).mapM Line.ofText
  return diagnosticsFrom none lines

end Report

end Transcompiler
