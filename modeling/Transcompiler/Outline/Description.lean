/-
# An outline in a log record

The record of an outline lists its landmarks by name, so that a wrong offset can
be seen at a glance.
-/

import Transcompiler.Outline.Basic
import Transcompiler.Text.Quoted

namespace Transcompiler.Outline

/-- Numbers in parentheses. A single number keeps a comma behind it. -/
def tuple (numbers : List Nat) : String :=
  match numbers with
  | [n] => "(" ++ toString n ++ ",)"
  | _ => "(" ++ ", ".intercalate (numbers.map toString) ++ ")"

/-- An outline on one line. -/
def description (outline : Outline) : String :=
  let package := match outline.package with
    | none => "None"
    | some clause => tuple [clause.start, clause.semicolon]
  let packageName := (outline.package.map (·.name)).getD []
  "Markers(prog=" ++ toString outline.prog ++
    ", open_brace=" ++ toString outline.openBrace ++
    ", begin=" ++ toString outline.begin ++
    ", close_brace=" ++ toString outline.closeBrace ++
    ", program_name=" ++ String.ofList (Text.quoted outline.programName) ++
    ", package=" ++ package ++
    ", package_name=" ++ String.ofList (Text.quoted packageName) ++
    ", bare_braces=" ++ tuple outline.bareBraces ++
    ", entry_points=" ++ tuple outline.entryPoints ++ ")"

end Transcompiler.Outline
