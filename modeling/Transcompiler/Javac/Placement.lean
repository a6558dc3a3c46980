/-
# Where the Java text of a unit is put

The parts of the name of a unit lead from a directory to a file. The directory is
there; those below it are made before the text is written. The system is first
asked for the whole way at once, and only if a directory on it is missing for the
ways to the directories one by one, from the top down. So a name that is too long
is found with the whole way if nothing in front of it is missing, and otherwise
with the way that ends in it.
-/

import Transcompiler.Service

namespace Transcompiler.Javac

/-- The path of the Java text of a unit: the parts of its name between the dots,
without those that are empty, lead from the directory to the file. -/
def unitPath (directory : Path) (unitName : Text) : Except Failure Path :=
  let parts := (Text.splitAtEvery '.' unitName).filter (· ≠ [])
  match parts.getLast? with
  | none =>
    .error (.invocation ("Invalid compilation unit name '" ++ String.ofList unitName ++ "'."))
  | some name =>
    .ok ((parts.dropLast ++ [name ++ ".java".toList]).foldl
      (fun path part => path.join (Path.ofText part)) directory)

/-- How many names of a path lead to what is there before anything is made. A path
that does not start in the directory starts at the root. -/
def depthThere (directory path : Path) : Nat :=
  if directory.root = path.root ∧ directory.segments <+: path.segments then
    directory.segments.length
  else 0

/-- The breakdown of making the directories down to a path, where the first ones are
there. -/
def directoryBreakdown? (there : Nat) (path : Path) : Option Breakdown :=
  let missing := path.segments.drop there
  let made := (missing.takeWhile Path.nameFits).length
  if path.hasZero then some .zeroInPath
  else if ¬path.fits then some (.nameTooLong path)
  else if made = missing.length then none
  else if made = 0 then some (.nameTooLong path)
  else some (.nameTooLong { path with segments := path.segments.take (there + made + 1) })

/-- The breakdown of writing a file into a directory that is there. -/
def fileBreakdown? (path : Path) : Option Breakdown :=
  if path.hasZero then some .zeroInPath
  else if path.fits ∧ path.segments.getLast?.all Path.nameFits then none
  else some (.nameTooLong path)

/-- The breakdown of putting a file at a path, where a directory is there. -/
def placementBreakdown? (directory path : Path) : Option Breakdown :=
  directoryBreakdown? (depthThere directory path.parent) path.parent <|> fileBreakdown? path

end Transcompiler.Javac
