/-
# Compiling a text in memory

A unit can be compiled without a file: its text is given to the compiler service
as the run of a file would give it, and the diagnostics can afterwards be shown in
any verbosity.
-/

import Transcompiler.Diagnostic.Fragment
import Transcompiler.Diagnostic.Tally
import Transcompiler.Service

namespace Transcompiler.InMemory

/-- Why a text was not compiled. -/
inductive Trouble where
  /-- The text has no outline. -/
  | malformed (file : String) (defect : Defect)
  /-- The service failed. -/
  | failed (failure : Failure)
deriving DecidableEq, Repr

/-- What came of compiling a text. -/
structure Compilation where
  /-- The name under which messages speak of the text. -/
  file : String
  /-- The Java unit. -/
  unit : JavaUnit
  /-- The answer of the service. -/
  outcome : Outcome
  /-- How many diagnostics there were. -/
  tally : Tally

namespace Compilation

/-- Whether the unit was accepted. -/
def accepted (compilation : Compilation) : Bool :=
  compilation.outcome.accepted

/-- The diagnostics in a verbosity, as one text. -/
def report (compilation : Compilation) (memory : Memory) (verbosity : Verbosity) :
    Except Breakdown String :=
  if verbosity = .brief then .ok compilation.tally.render
  else do
    let shown := compilation.outcome.diagnostics.filter (verbosity.shows ·.kind)
    let texts ← shown.mapM (Diagnostic.fragment memory compilation.file compilation.unit.lines)
    return "\n".intercalate texts

end Compilation

/-- Compiles a text: what came of it, and the state of the service afterwards. -/
def compile {σ : Type} (configuration : Configuration) (service : Service σ) (file : String)
    (text : Text) (state : σ) : Except Trouble Compilation × σ :=
  match JavaUnit.ofText text with
  | .error defect => (.error (.malformed file defect), state)
  | .ok unit =>
    let reply := service.compile (Job.ofUnit configuration unit) state
    match reply.result with
    | .error failure => (.error (.failed failure), reply.state)
    | .ok outcome =>
      (.ok ⟨file, unit, outcome, Tally.ofDiagnostics outcome.diagnostics⟩, reply.state)

end Transcompiler.InMemory
