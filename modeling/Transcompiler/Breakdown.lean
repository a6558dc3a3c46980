/-
# Breakdowns

The machine has limits that the transcompiler does not look out for. A name can be
too long for the file system, a directory can be closed to the user, an elapsed time
can be endless, a number can have too many digits, a text can be too long for the
memory. Running into such a limit is a breakdown. Inside of a compiler service it is a
failure like any other, which rejects the unit at hand; everywhere else it ends the
invocation, and the tool has nothing of its own to say about it.
-/

import Transcompiler.Path
import Transcompiler.Text.Decimal
import Transcompiler.Text.Quoted

namespace Transcompiler

/-- The limits of the machine, as what happens beyond them. -/
inductive Breakdown where
  /-- A path, or a name on its way, has more bytes than the file system takes. -/
  | nameTooLong (path : Path)
  /-- A path holds the zero character, at which the system ends a path. -/
  | zeroInPath
  /-- A directory on the way may not be searched. -/
  | forbidden (path : Path)
  /-- An elapsed time is infinite. -/
  | endlessTime
  /-- An elapsed time is the difference of two infinite times. -/
  | undefinedTime
  /-- A number has more digits than are written. -/
  | numberTooLong
  /-- A text has more characters than can be counted off. -/
  | textTooLong
  /-- A text does not fit into the memory. -/
  | outOfMemory
deriving DecidableEq, Repr

namespace Breakdown

/-- The name of the kind of a breakdown. -/
def name : Breakdown → String
  | .nameTooLong _ => "OSError"
  | .zeroInPath => "ValueError"
  | .forbidden _ => "PermissionError"
  | .endlessTime => "OverflowError"
  | .undefinedTime => "ValueError"
  | .numberTooLong => "ValueError"
  | .textTooLong => "OverflowError"
  | .outOfMemory => "MemoryError"

/-- The text of a breakdown. -/
def message : Breakdown → String
  | .nameTooLong path =>
    "[Errno 36] File name too long: " ++ String.ofList (Text.quoted path.text)
  | .zeroInPath => "embedded null byte"
  | .forbidden path => "[Errno 13] Permission denied: " ++ String.ofList (Text.quoted path.text)
  | .endlessTime => "cannot convert float infinity to integer"
  | .undefinedTime => "cannot convert float NaN to integer"
  | .numberTooLong =>
    "Exceeds the limit (" ++ toString Text.digitLimit ++ " digits) for integer string conversion" ++
      "; use sys.set_int_max_str_digits() to increase the limit"
  | .textTooLong => "cannot fit 'int' into an index-sized integer"
  | .outOfMemory => ""

end Breakdown

/-- The digits of a number, unless it has too many. -/
def Text.written (n : Int) : Except Breakdown String :=
  if Text.isWritable n then .ok (toString n) else .error .numberTooLong

end Transcompiler
