/-
# Source files

A source file is checked before anything is compiled: it must be there, be a file
that may be read and not be too small to hold a unit. Reading decodes it strictly
and gives every kind of line ending as a line feed.

A name that is too long breaks the check down, and so does a directory on the way
that may not be searched, but for reading these are only further reasons to fail. A
zero character in a name is the other way round.
-/

import Transcompiler.Breakdown
import Transcompiler.FileSystem

namespace Transcompiler

/-- Why a file cannot be read. -/
inductive ReadFault where
  /-- Nothing stands at the path. -/
  | absent (path : Path)
  /-- A name on the way is not a directory. -/
  | notDirectory (path : Path)
  /-- The path leads to a directory. -/
  | directory (path : Path)
  /-- Links on the way lead round in a circle. -/
  | circular (path : Path)
  /-- The path, or a name on the way, is too long. -/
  | nameTooLong (path : Path)
  /-- The file may not be read, or a directory on the way may not be searched. -/
  | forbidden (path : Path)
  /-- The bytes are not an encoded text. -/
  | undecodable (fault : Utf8.Fault)
deriving DecidableEq, Repr

/-- The text of a fault. -/
def ReadFault.message : ReadFault → String
  | .absent path =>
    "[Errno 2] No such file or directory: " ++ String.ofList (Text.quoted path.text)
  | .notDirectory path => "[Errno 20] Not a directory: " ++ String.ofList (Text.quoted path.text)
  | .directory path => "[Errno 21] Is a directory: " ++ String.ofList (Text.quoted path.text)
  | .circular path =>
    "[Errno 40] Too many levels of symbolic links: " ++ String.ofList (Text.quoted path.text)
  | .nameTooLong path => (Breakdown.nameTooLong path).message
  | .forbidden path => (Breakdown.forbidden path).message
  | .undecodable fault => fault.message

/-- Why a source file is refused. -/
inductive FileFault where
  /-- The file is not there. -/
  | missing (name : String)
  /-- The name does not lead to a file that may be read. -/
  | unreadable (name : String)
  /-- The file is too small to hold a unit. -/
  | tooSmall (name : String)
  /-- Reading the file failed. -/
  | unread (name : String) (cause : ReadFault)
  /-- Looking at the file broke down. -/
  | breakdown (breakdown : Breakdown)
deriving DecidableEq, Repr

/-- The text of a fault. -/
def FileFault.message : FileFault → String
  | .missing name => "File: '" ++ name ++ "' does not exist."
  | .unreadable name => "File: '" ++ name ++ "' is unreadable."
  | .tooSmall name => "File: '" ++ name ++ "' is too small."
  | .unread name cause => "File: '" ++ name ++ "' is unreadable (" ++ cause.message ++ ")."
  | .breakdown cause => cause.message

namespace SourceFile

/-- The smallest number of bytes of a source file. -/
def minimumSize : Nat := 15

/-- Checks a source file without reading it. -/
def verify (files : FileSystem) (name : String) : Except FileFault Unit :=
  let path := Path.ofString name
  match files.entry path with
  | .missing => .error (.missing name)
  | .blocked => .error (.missing name)
  | .circular => .error (.missing name)
  | .nameTooLong => .error (.breakdown (.nameTooLong path))
  | .zeroInPath => .error (.missing name)
  | .forbidden => .error (.breakdown (.forbidden path))
  | .locked => .error (.unreadable name)
  | .directory => .error (.unreadable name)
  | .file bytes => if bytes.length < minimumSize then .error (.tooSmall name) else .ok ()

/-- A text with every line ending as a line feed: a carriage return counts as one,
together with a line feed behind it. -/
def normalizeNewlines : Text → Text
  | [] => []
  | '\r' :: '\n' :: cs => '\n' :: normalizeNewlines cs
  | '\r' :: cs => '\n' :: normalizeNewlines cs
  | c :: cs => c :: normalizeNewlines cs

/-- The text of a source file. -/
def read (files : FileSystem) (name : String) : Except FileFault Text :=
  let path := Path.ofString name
  match files.entry path with
  | .missing => .error (.unread name (.absent path))
  | .blocked => .error (.unread name (.notDirectory path))
  | .circular => .error (.unread name (.circular path))
  | .nameTooLong => .error (.unread name (.nameTooLong path))
  | .zeroInPath => .error (.breakdown .zeroInPath)
  | .forbidden => .error (.unread name (.forbidden path))
  | .locked => .error (.unread name (.forbidden path))
  | .directory => .error (.unread name (.directory path))
  | .file bytes =>
    match Utf8.decode bytes with
    | .error fault => .error (.unread name (.undecodable fault))
    | .ok text => .ok (normalizeNewlines text)

end SourceFile

end Transcompiler
