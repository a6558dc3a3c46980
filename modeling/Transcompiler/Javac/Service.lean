/-
# The Java compiler as a service

Each job becomes one process, whose results are given in advance: how it ended,
what it printed and how long it took. The report on its error output becomes the
diagnostics, its standard output is passed on, and its exit code is the verdict.
-/

import Transcompiler.Clock
import Transcompiler.Diagnostic.Report
import Transcompiler.Javac.Command
import Transcompiler.Javac.Placement

namespace Transcompiler.Javac

/-- A process that ran to its end. -/
structure Completed where
  /-- The exit code. -/
  code : Int := 0
  /-- What it printed on its standard output. -/
  output : String := ""
  /-- What it printed on its error output. -/
  report : Text := []
deriving DecidableEq, Repr

/-- A process, from its start on. -/
structure Execution where
  /-- How it ended, or why it did not run. -/
  ending : Except Failure Completed := .ok {}
  /-- The seconds that it took. -/
  seconds : Float := 0

/-- A process that was started. -/
structure Launch where
  /-- The command. -/
  command : List String
  /-- The Java text that it was to compile. -/
  source : Text
deriving DecidableEq, Repr

/-- The state of the service. -/
structure State where
  /-- The processes to come. When none is left, every further one succeeds without
  a word. -/
  executions : List Execution := []
  /-- The reading of the clock. -/
  clock : Float := 0
  /-- The processes that were started. -/
  launches : List Launch := []

/-- The state in which the next process has run, and that process. -/
def State.launch (state : State) (launch : Launch) : Execution × State :=
  let process := state.executions.headD {}
  (process,
    { executions := state.executions.tail
      clock := state.clock + process.seconds
      launches := state.launches ++ [launch] })

/-- A report that cannot be read as a failure. -/
def unreadableReport (fault : LineNumberTooLong) : Failure where
  kind := .other "ValueError"
  text := fault.message

/-- The records and the output of a process that ran to its end. -/
def completedEvents (completed : Completed) (elapsed : Int) : List Event :=
  (if completed.output = "" then [] else [.passed completed.output]) ++
    [.debug .javac ("javac retornou " ++ toString completed.code ++ " em " ++ toString elapsed ++
      " ms")]

/-- Runs a process for a Java text. -/
def run (launch : Launch) (state : State) : Reply State :=
  let started := Event.info .javac ("Executando: " ++ " ".intercalate launch.command)
  let (process, behind) := state.launch launch
  match process.ending with
  | .error failure => ⟨.error failure.asInvocation, [started], behind⟩
  | .ok completed =>
    match Clock.milliseconds state.clock behind.clock with
    | .error breakdown => ⟨.error (.ofBreakdown breakdown), [started], behind⟩
    | .ok elapsed =>
      let result := match Report.parse completed.report with
        | .error fault => .error (unreadableReport fault)
        | .ok diagnostics => .ok ⟨completed.code = 0, diagnostics, elapsed⟩
      ⟨result, started :: completedEvents completed elapsed, behind⟩

/-- Does a job, unless no executable is found, the unit has no usable name or its
text cannot be put anywhere. -/
def compile (setup : Setup) (job : Job) (state : State) : Reply State :=
  match setup.resolve with
  | .error failure => ⟨.error failure, [], state⟩
  | .ok executable =>
    match unitPath setup.scratchDirectory job.unitName with
    | .error failure => ⟨.error failure, [], state⟩
    | .ok path =>
      match placementBreakdown? setup.scratchDirectory path with
      | some breakdown => ⟨.error (Failure.ofBreakdown breakdown).asInvocation, [], state⟩
      | none => run ⟨setup.command executable path job.options, job.source⟩ state

/-- The Java compiler as a service. -/
def service (setup : Setup) : Service State where
  compile := compile setup
  clock := State.clock

end Transcompiler.Javac
