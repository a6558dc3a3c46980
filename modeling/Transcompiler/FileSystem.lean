/-
# File systems

A file system says what stands at each path. The transcompiler only looks: it
asks whether something is there, whether it may be read, how large a file is and
what it holds. Where nothing is, there can be several reasons.

A file tree is a file system given by the files and directories below the working
directory; nothing is known of what lies beside or above that directory, except
that the directories above it are there.
-/

import Transcompiler.Path

namespace Transcompiler

/-- What stands at a path. -/
inductive Entry where
  /-- Nothing. -/
  | missing
  /-- Nothing, because a name on the way is a file. -/
  | blocked
  /-- Nothing, because links on the way lead round in a circle. -/
  | circular
  /-- Nothing, because the path, or a name that is come to, is too long. -/
  | nameTooLong
  /-- Nothing, because the path holds the zero character. -/
  | zeroInPath
  /-- Nothing that could be seen, because a directory on the way may not be searched. -/
  | forbidden
  /-- A file that may not be read. -/
  | locked
  | directory
  | file (bytes : List UInt8)
deriving DecidableEq, Repr

/-- Whether something stands at the path. -/
def Entry.isPresent : Entry → Bool
  | .missing => false
  | .blocked => false
  | .circular => false
  | .nameTooLong => false
  | .zeroInPath => false
  | .forbidden => false
  | .locked => true
  | .directory => true
  | .file _ => true

/-- A file system as it is seen by looking at paths. -/
structure FileSystem where
  /-- What stands at a path. -/
  entry : Path → Entry

/-- The files and directories below the working directory. A directory needs no
entry of its own if something stands in it. -/
structure FileTree where
  /-- The names from the working directory on, and what they lead to. What was put
  there last stands first, and counts. -/
  entries : List (List Text × Entry) := []

namespace FileTree

/-- What stands at the end of names below the working directory. -/
def entryBelow (tree : FileTree) (names : List Text) : Entry :=
  match tree.entries.find? (·.1 = names) with
  | some (_, entry) => entry
  | none => if names = [] ∨ tree.entries.any (names <+: ·.1) then .directory else .missing

/-- Where a walk along a path has come to. -/
inductive Place where
  /-- At the end of names below the working directory. -/
  | below (names : List Text)
  /-- At a directory above the working directory. -/
  | above
  /-- Outside of what is known. -/
  | nowhere
deriving DecidableEq, Repr

/-- What stands at a place. -/
def entryAt (tree : FileTree) : Place → Entry
  | .below names => tree.entryBelow names
  | .above => .directory
  | .nowhere => .missing

/-- The place that a name leads to from a directory. -/
def Place.step : Place → Text → Place
  | .below [], ['.', '.'] => .above
  | .below names, ['.', '.'] => .below names.dropLast
  | .below names, name => .below (names ++ [name])
  | .above, ['.', '.'] => .above
  | .above, _ => .nowhere
  | .nowhere, _ => .nowhere

/-- Puts an entry at the end of names from a place on, with directories on the way.
Nothing is put outside of the working directory. -/
def put (entry : Entry) : Place → List Text → FileTree → FileTree
  | .below here, [], tree => ⟨(here, entry) :: tree.entries⟩
  | .below here, name :: names, tree =>
    put entry (Place.step (.below here) name) names ⟨(here, .directory) :: tree.entries⟩
  | .above, _, tree => tree
  | .nowhere, _, tree => tree

/-- The tree that comes of putting entries at paths, one after the other. -/
def ofList (files : List (Path × Entry)) : FileTree :=
  files.foldl (fun tree (path, entry) => put entry (.below []) path.segments tree) {}

/-- What stands at the end of names from a place on. Every name but the last has
to lead to a directory, and a name is looked up only if it is not too long. -/
def walk (tree : FileTree) : Place → List Text → Entry
  | place, [] => tree.entryAt place
  | place, name :: names =>
    match tree.entryAt place with
    | .directory =>
      if Path.nameFits name then walk tree (place.step name) names else .nameTooLong
    | .file _ => .blocked
    | .locked => .blocked
    | entry => entry

/-- A file tree as a file system. -/
def toFileSystem (tree : FileTree) : FileSystem where
  entry path :=
    if path.hasZero then .zeroInPath
    else if path.fits then
      match path.root with
      | .relative => tree.walk (.below []) path.segments
      | _ => tree.walk .above path.segments
    else .nameTooLong

end FileTree

end Transcompiler
