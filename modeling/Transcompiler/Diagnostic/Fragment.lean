/-
# Showing a diagnostic

A shown diagnostic names the file, the place and the kind, and quotes the line of
the generated text with a caret under the column. A place outside of the text is
shown without a quotation.

A diagnostic may name any numbers. Those with too many digits cannot be written, and
a column can be so large that there is no room for the line with the caret. Showing
such a diagnostic breaks down.
-/

import Transcompiler.Configuration.Basic
import Transcompiler.Diagnostic.Basic
import Transcompiler.Memory

namespace Transcompiler

/-- Whether diagnostics of a kind are shown one by one. -/
def Verbosity.shows (verbosity : Verbosity) (kind : DiagnosticKind) : Bool :=
  match verbosity with
  | .full => true
  | .hush => kind = .error
  | .brief => false
  | .mute => false

namespace Diagnostic

/-- The line with a number, if there is one. -/
def lineAt? (lines : List Text) (number : Int) : Option Text :=
  if 1 ≤ number then lines[(number - 1).toNat]? else none

/-- How many blanks stand in front of a caret under a column. Columns before the
first count as the first. -/
def indent (column : Int) : Nat :=
  (max column 1 - 1).toNat

/-- A caret under a column, if there is room for the blanks in front of it. -/
def pointer (memory : Memory) (column : Int) : Except Breakdown Text :=
  if countLimit < indent column then .error .textTooLong
  else if memory.blanks < indent column then .error .outOfMemory
  else .ok (List.replicate (indent column) ' ' ++ ['^'])

/-- The quoted line with a caret below it, or nothing if the line is not there. -/
def snippet (memory : Memory) (lines : List Text) (line column : Int) : Except Breakdown Text :=
  match lineAt? lines line with
  | none => .ok []
  | some text => (pointer memory column).map fun caret => text ++ '\n' :: caret

/-- The text that shows a diagnostic. A note is shown by its message alone. -/
def fragment (memory : Memory) (file : String) (lines : List Text) (diagnostic : Diagnostic) :
    Except Breakdown String :=
  let heading := "Error: " ++ file ++ "."
  match diagnostic.kind with
  | .note => .ok (String.intercalate "\n" [heading, String.ofList diagnostic.message, ""])
  | kind => do
    let line ← Text.written diagnostic.line
    let column ← Text.written diagnostic.column
    let quotation ← snippet memory lines diagnostic.line diagnostic.column
    return String.intercalate "\n"
      [ heading,
        "Line " ++ line ++ " At " ++ column ++ ": " ++ kind.name ++ ": " ++
          String.ofList diagnostic.headline,
        String.ofList quotation,
        "" ]

end Diagnostic

end Transcompiler
