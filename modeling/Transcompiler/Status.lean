/-
# The status of an invocation

An invocation succeeds, fails because some unit was rejected, or runs into a
problem that ends it. The status is also the exit code, and the worse of two
statuses is the one with the larger code.
-/

namespace Transcompiler

/-- How an invocation ends. -/
inductive Status where
  | success
  | failure
  | problem
deriving DecidableEq, Repr

namespace Status

/-- The exit code of a status. -/
def code : Status → Nat
  | .success => 0
  | .failure => 1
  | .problem => 2

/-- The name of a status in log records. -/
def name : Status → String
  | .success => "SUCCESS"
  | .failure => "FAILURE"
  | .problem => "PROBLEM"

/-- The worse of two statuses. -/
def worse (a b : Status) : Status :=
  if b.code ≤ a.code then a else b

end Status

end Transcompiler
