/-
# Compiling the units of an invocation

All source files are checked before the first one is compiled. Then each file is
read, turned into Java and given to the compiler service, in the order in which
the files were named. A unit that the service rejects, or fails on, is reported
and the next one follows; a file that cannot be read, a unit without an outline and
a breakdown end the run.

The run is a pure function of the configuration, the machine and the state of the
service. Its result holds all that can be seen of it: the events in their
order, the jobs of the service, the results of the units that were finished, and
how the run ended.
-/

import Transcompiler.Clock
import Transcompiler.Diagnostic.Listing
import Transcompiler.Fault
import Transcompiler.Outline.Description
import Transcompiler.Service

namespace Transcompiler

/-- What a run depends on besides its configuration and the service. -/
structure Machine where
  /-- The file system. -/
  files : FileSystem
  /-- The room for texts. -/
  memory : Memory

/-- What came of a unit. -/
structure UnitResult where
  /-- The name of the source file. -/
  path : String
  /-- Whether the unit was accepted. -/
  accepted : Bool
  /-- The Java unit. -/
  unit : JavaUnit
  /-- The answer of the service, unless it failed. -/
  outcome : Option Outcome
  /-- How many diagnostics there were, if they were counted. -/
  tally : Tally
  /-- The time from handing the unit over to getting an answer, in milliseconds. -/
  elapsed : Int

/-- The run of one unit or of several: all that can be seen of it. -/
structure Run (σ α : Type) where
  /-- What could be seen, in its order. -/
  events : List Event
  /-- The jobs that the service was given. -/
  jobs : List Job
  /-- The results of the units that were finished. -/
  units : List UnitResult
  /-- How the run ended. -/
  ending : Except Fault α
  /-- The state of the service afterwards. -/
  state : σ

namespace Run

variable {σ : Type}

/-! ## What is printed about a unit -/

/-- The options and files of an invocation, as they are printed for each unit. -/
def optionsText (configuration : Configuration) : String :=
  "\nZeptoN Compiler Options: [" ++ ", ".intercalate configuration.compilerOptions ++
    "] Files: [" ++ ", ".intercalate configuration.files ++ "] Encoding: utf-8\n"

/-- What is printed when the service fails. -/
def failureText (failure : Failure) : String :=
  "ZeptoN Compiler Exception: '" ++ failure.reported.name ++ "' is '" ++
    failure.reported.text ++ "'."

/-- The report on what came of a job. A failure is reported in every verbosity. The
diagnostics of an outcome are listed unless the verbosity is mute, but they are printed
only if the unit is rejected and the verbosity shows diagnostics one by one. -/
def answerListing (configuration : Configuration) (memory : Memory) (path : String)
    (unit : JavaUnit) : Except Failure Outcome → Listing
  | .error failure =>
    { records := [.debug .run "Falha no servico de compilacao"]
      texts := .ok [failureText failure] }
  | .ok outcome =>
    if configuration.verbosity = .mute then {}
    else
      let listing := Diagnostic.report configuration.verbosity memory path unit.lines {}
        outcome.diagnostics
      if configuration.verbosity ≠ .brief ∧ ¬outcome.accepted then listing
      else { listing with texts := listing.texts.map fun _ => [] }

/-- What is printed when a unit is finished. -/
def closingEvents (configuration : Configuration) (result : UnitResult) : List Event :=
  (if configuration.verbosity = .brief then [.printed result.tally.render] else []) ++
  (if configuration.time then
    [.printed ("Time: " ++ toString result.elapsed ++ "-ms for: " ++ result.path)]
  else []) ++
  (if configuration.echo then
    [.printed ("ZeptoN Compiler result for file: '" ++ result.path ++ "' is: " ++
      if result.accepted then "Success." else "Failure!")]
  else [])

/-! ## Running -/

/-- The result of a unit from its tally and from what came of its job. -/
def unitResult (path : String) (unit : JavaUnit) (elapsed : Int) (tally : Tally) :
    Except Failure Outcome → UnitResult
  | .error _ => ⟨path, false, unit, none, tally, elapsed⟩
  | .ok outcome => ⟨path, outcome.accepted, unit, some outcome, tally, elapsed⟩

/-- The run of a unit after its job was done in some time. -/
def ofReply (configuration : Configuration) (memory : Memory) (path : String) (unit : JavaUnit)
    (elapsed : Int) (reply : Reply σ) : Run σ UnitResult :=
  let measured := Event.debug .run ("Compilacao levou " ++ toString elapsed ++ " ms")
  let listing := answerListing configuration memory path unit reply.result
  match listing.texts with
  | .error breakdown =>
    { events := measured :: listing.records
      jobs := []
      units := []
      ending := .error (.breakdown breakdown)
      state := reply.state }
  | .ok texts =>
    let result := unitResult path unit elapsed listing.tally reply.result
    { events :=
        measured :: listing.records ++ texts.map .printed ++ closingEvents configuration result
      jobs := []
      units := [result]
      ending := .ok result
      state := reply.state }

/-- The run of a unit whose outline is known. -/
def ofOutline (configuration : Configuration) (memory : Memory) (service : Service σ)
    (path : String) (text : Text) (outline : Outline) (state : σ) : Run σ UnitResult :=
  let unit := JavaUnit.ofOutline text outline
  let job := Job.ofUnit configuration unit
  let reply := service.compile job state
  let done :=
    Event.debug .outline ("Marcadores de " ++ path ++ ": " ++ outline.description) :: reply.events
  match Clock.milliseconds (service.clock state) (service.clock reply.state) with
  | .error breakdown => ⟨done, [job], [], .error (.breakdown breakdown), reply.state⟩
  | .ok elapsed =>
    let run := ofReply configuration memory path unit elapsed reply
    { run with events := done ++ run.events, jobs := [job] }

/-- The run of one unit. -/
def ofFile (configuration : Configuration) (machine : Machine) (service : Service σ)
    (path : String) (state : σ) : Run σ UnitResult :=
  let opening :=
    if configuration.echo then [Event.printed (optionsText configuration)] else []
  match SourceFile.read machine.files path with
  | .error fault => ⟨opening, [], [], .error (.file fault), state⟩
  | .ok text =>
    match Outline.ofText text with
    | .error defect => ⟨opening, [], [], .error (.malformed path defect), state⟩
    | .ok outline =>
      let run := ofOutline configuration machine.memory service path text outline state
      { run with events := opening ++ run.events }

/-- The status after a unit. -/
def statusAfter (status : Status) (result : UnitResult) : Status :=
  if result.accepted then status else status.worse .failure

/-- The run of the units in some files, from a status on. -/
def ofFiles (configuration : Configuration) (machine : Machine) (service : Service σ) :
    List String → Status → σ → Run σ Status
  | [], status, state =>
    { events := [.info .run ("Status final: " ++ status.name)]
      jobs := []
      units := []
      ending := .ok status
      state := state }
  | path :: paths, status, state =>
    let first := ofFile configuration machine service path state
    match first.ending with
    | .error fault => { first with ending := .error fault }
    | .ok result =>
      let rest :=
        ofFiles configuration machine service paths (statusAfter status result) first.state
      { events := first.events ++ rest.events
        jobs := first.jobs ++ rest.jobs
        units := first.units ++ rest.units
        ending := rest.ending
        state := rest.state }

/-- Checks source files, up to the first that is refused. -/
def verifyAll (files : FileSystem) : List String → Except FileFault Unit
  | [] => .ok ()
  | path :: paths =>
    match SourceFile.verify files path with
    | .error fault => .error fault
    | .ok () => verifyAll files paths

/-- The run of all units of an invocation. -/
def ofConfiguration (configuration : Configuration) (machine : Machine) (service : Service σ)
    (state : σ) : Run σ Status :=
  match verifyAll machine.files configuration.files with
  | .error fault => ⟨[], [], [], .error (.file fault), state⟩
  | .ok () => ofFiles configuration machine service configuration.files .success state

end Run

end Transcompiler
