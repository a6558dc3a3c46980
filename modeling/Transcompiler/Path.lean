/-
# Paths

A path is a root and the names below it. Its written form may repeat slashes, end
in one and name the current directory; none of that changes the path. The name of
the parent directory is kept, because what it leads to depends on the file
system. Exactly two slashes at the front are a root of their own.

File systems take names and paths only up to a number of bytes.
-/

import Transcompiler.Text.Utf8

namespace Transcompiler

namespace Path

/-- Where a path starts from. -/
inductive Root where
  /-- The working directory. -/
  | relative
  /-- The root directory. -/
  | slash
  /-- The root written by exactly two slashes. -/
  | doubleSlash
deriving DecidableEq, Repr

/-- The written form of a root. -/
def Root.text : Root → Text
  | .relative => []
  | .slash => ['/']
  | .doubleSlash => ['/', '/']

end Path

/-- A path in a file system. -/
structure Path where
  /-- Where it starts from. -/
  root : Path.Root
  /-- The names on the way. -/
  segments : List Text
deriving DecidableEq, Repr

namespace Path

/-- The root with which a written path starts. -/
def rootOf (text : Text) : Root :=
  match (text.takeWhile (· = '/')).length with
  | 0 => .relative
  | 2 => .doubleSlash
  | _ => .slash

/-- The path that a text writes. -/
def ofText (text : Text) : Path where
  root := rootOf text
  segments := (Text.splitAtEvery '/' text).filter fun segment => segment ≠ [] ∧ segment ≠ ['.']

/-- The path that a string writes. -/
def ofString (string : String) : Path :=
  ofText string.toList

/-- The path behind another one. A path with a root of its own stands alone. -/
def join (base path : Path) : Path :=
  match path.root with
  | .relative => ⟨base.root, base.segments ++ path.segments⟩
  | _ => path

/-- The shortest written form of a path. -/
def text (path : Path) : Text :=
  if path.root = .relative ∧ path.segments = [] then ['.']
  else path.root.text ++ List.intercalate ['/'] path.segments

/-- The shortest written form of a path, as a string. -/
def toString (path : Path) : String :=
  String.ofList path.text

/-- The path without its last name. -/
def parent (path : Path) : Path :=
  { path with segments := path.segments.dropLast }

/-! ## Limits -/

/-- The largest number of bytes of a name. -/
def nameLimit : Nat := 255

/-- The largest number of bytes of a written path. -/
def sizeLimit : Nat := 4095

/-- Whether a name is short enough for a file system. -/
def nameFits (name : Text) : Bool :=
  Utf8.size name ≤ nameLimit

/-- Whether a path, apart from its names, is short enough for a file system. -/
def fits (path : Path) : Bool :=
  Utf8.size path.text ≤ sizeLimit

/-- Whether a path holds the zero character. -/
def hasZero (path : Path) : Bool :=
  path.text.contains '\x00'

end Path

end Transcompiler
