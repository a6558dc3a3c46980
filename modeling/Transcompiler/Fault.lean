/-
# Faults of an invocation

A fault ends an invocation: its arguments make no sense, a source file is refused,
a unit has no outline, or something broke down. A failure of the compiler service
is no fault, because it only rejects the unit at hand.
-/

import Transcompiler.Configuration.Arguments
import Transcompiler.Outline.Basic
import Transcompiler.SourceFile
import Transcompiler.Status

namespace Transcompiler

/-- Why an invocation ends early. -/
inductive Fault where
  /-- The arguments are not an invocation. -/
  | arguments (fault : ArgumentFault)
  /-- A source file is refused. -/
  | file (fault : FileFault)
  /-- The unit in a file has no outline. -/
  | malformed (file : String) (defect : Defect)
  /-- Something broke down. -/
  | breakdown (breakdown : Breakdown)
deriving DecidableEq, Repr

namespace Fault

/-- The text of a fault. -/
def message : Fault → String
  | .arguments fault => fault.message
  | .file fault => fault.message
  | .malformed name defect => name ++ ": " ++ defect.message
  | .breakdown cause => cause.message

/-- The breakdown that a fault is, if it is one. -/
def breakdown? : Fault → Option Breakdown
  | .file (.breakdown cause) => some cause
  | .breakdown cause => some cause
  | _ => none

/-- The status of an invocation that ends in a fault. -/
def status (fault : Fault) : Status :=
  if fault.breakdown?.isSome then .failure else .problem

end Fault

end Transcompiler
