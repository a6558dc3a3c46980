/-
# Counting diagnostics

A tally counts the diagnostics of a unit by kind, and all of them together. Its
text lists the kinds that occurred.
-/

import Transcompiler.Breakdown
import Transcompiler.Diagnostic.Basic

namespace Transcompiler

/-- How many diagnostics there were. -/
structure Tally where
  /-- How many of each kind. -/
  count : DiagnosticKind → Int := fun _ => 0
  /-- How many in all. -/
  total : Int := 0

namespace Tally

/-- A tally with one more diagnostic counted. -/
def record (tally : Tally) (kind : DiagnosticKind) : Tally where
  count each := if each = kind then tally.count each + 1 else tally.count each
  total := tally.total + 1

/-- A tally with further diagnostics counted. -/
def recordAll (tally : Tally) (diagnostics : List Diagnostic) : Tally :=
  diagnostics.foldl (fun tally diagnostic => tally.record diagnostic.kind) tally

/-- The tally of some diagnostics. -/
def ofDiagnostics (diagnostics : List Diagnostic) : Tally :=
  recordAll {} diagnostics

/-- The text of a tally: the total, then each kind that occurred on a line of its
own. -/
def render (tally : Tally) : String :=
  if tally.total = 0 then "No compiler diagnostic messages."
  else
    String.intercalate "\n" <|
      [Text.alignedInThree tally.total ++ " Diagnostic messages:"] ++
      (DiagnosticKind.all.filter (0 < tally.count ·)).map (fun kind =>
        "  " ++ Text.alignedInThree (tally.count kind) ++ " " ++ kind.label) ++
      [""]

/-- The numbers in the text of a tally. -/
def numbers (tally : Tally) : List Int :=
  if tally.total = 0 then []
  else tally.total :: (DiagnosticKind.all.map tally.count).filter (0 < ·)

/-- The text of a tally, unless a number in it has too many digits. -/
def written (tally : Tally) : Except Breakdown String :=
  if tally.numbers.all Text.isWritable then .ok tally.render else .error .numberTooLong

end Tally

end Transcompiler
