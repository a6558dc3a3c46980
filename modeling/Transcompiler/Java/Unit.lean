/-
# The Java compilation unit of a ZeptoN unit

The Java text is the ZeptoN text with a few edits: `prog` becomes the imports and
the class header, `begin` becomes the support members, the constructor and the
opening of the entry point, and the last closing brace becomes the end of the
entry point and of the class. An opening brace that touches what is in front of
it gets a space, and a `main` of the unit's own is renamed. No replacement holds
a line feed, so a diagnostic for a line of the Java text is one for the same line
of the ZeptoN text.
-/

import Transcompiler.Edit
import Transcompiler.Java.Scaffold
import Transcompiler.Outline.Basic

namespace Transcompiler

/-- A Java compilation unit and what names it. -/
structure JavaUnit where
  /-- The Java text. -/
  source : Text
  /-- The name of the program, which is that of the Java class. -/
  programName : Text
  /-- The name in the package clause, empty without one. -/
  packageName : Text
  /-- Whether the ZeptoN unit has a package clause. -/
  declaresPackage : Bool
deriving DecidableEq, Repr

namespace Outline

/-- The edits that turn a ZeptoN text with this outline into Java. -/
def edits (outline : Outline) : List Edit :=
  [ ⟨outline.prog, outline.prog + Keyword.prog.word.length,
      Scaffold.imports ++ Scaffold.classHeader⟩,
    ⟨outline.begin, outline.begin + Keyword.begin.word.length,
      Scaffold.prologue outline.programName⟩,
    ⟨outline.closeBrace, outline.closeBrace + 1, Scaffold.epilogue⟩ ] ++
  outline.bareBraces.map (fun place => ⟨place, place, [' ']⟩) ++
  outline.entryPoints.map (fun place => ⟨place, place + "main".length, Scaffold.renamedMain⟩)

end Outline

namespace JavaUnit

/-- The name under which the unit is compiled. A unit with a package clause goes
by its program name alone; otherwise the package name and a dot stand in front,
also when that name is empty. -/
def logicalName (unit : JavaUnit) : Text :=
  if unit.declaresPackage then unit.programName
  else unit.packageName ++ '.' :: unit.programName

/-- The lines of the Java text. -/
def lines (unit : JavaUnit) : List Text :=
  Text.lines unit.source

/-- The Java unit of a ZeptoN text whose outline is known. -/
def ofOutline (text : Text) (outline : Outline) : JavaUnit where
  source := Edit.applyAll text outline.edits
  programName := outline.programName
  packageName := (outline.package.map (·.name)).getD []
  declaresPackage := outline.package.isSome

/-- The Java unit of a ZeptoN text. -/
def ofText (text : Text) : Except Defect JavaUnit :=
  (Outline.ofText text).map (ofOutline text)

end JavaUnit

end Transcompiler
