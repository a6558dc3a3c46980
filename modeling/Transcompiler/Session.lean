/-
# The command line

A session is one invocation from the command line: it reads the arguments, does
what they ask for, and leaves an exit code and what it wrote on the two output
streams. Printed texts go to the standard output; log records and the output of
the Java compiler go to the error output, in the order in which they arise.
-/

import Transcompiler.Help
import Transcompiler.Javac.Service
import Transcompiler.Run
import Transcompiler.Terminal

namespace Transcompiler

/-- The machine on which a session runs. -/
structure Host extends Machine where
  /-- The environment. -/
  environment : Environment := {}
  /-- The working directory. -/
  workingDirectory : Path
  /-- The directory for Java texts. -/
  scratchDirectory : Path
  /-- The processes that the Java compiler is going to be. -/
  executions : List Javac.Execution := []
  /-- Whether the standard output shows colours. -/
  colour : Bool := false

namespace Host

/-- How a session calls the Java compiler. -/
def setup (host : Host) : Javac.Setup where
  environment := host.environment
  files := host.files
  workingDirectory := host.workingDirectory
  scratchDirectory := host.scratchDirectory

end Host

/-- What a session leaves behind. -/
structure Session where
  /-- The breakdown that ended the session, if one did. -/
  breakdown : Option Breakdown := none
  /-- What could be seen, in its order. -/
  events : List Event
  /-- The status, which is also the exit code. -/
  status : Status
  /-- The processes that were started. -/
  launches : List Javac.Launch

namespace Session

/-- The arguments without the first one that only marks the end of options. -/
def withoutMarker (arguments : List String) : List String :=
  arguments.erase "--"

/-- What is printed about a fault. The tool does not speak of breakdowns. -/
def faultEvents (fault : Fault) : List Event :=
  if fault.breakdown?.isSome then []
  else [.printed "", .printed (Terminal.red ("Error! " ++ fault.message)), .printed ""]

/-- What is printed if there are no arguments, before that is found to be a fault. -/
def greeting (arguments : List String) : List Event :=
  if arguments = [] then [.printed (Help.release ++ " " ++ Help.version ++ "\n" ++ Help.license)]
  else []

/-- The session that compiles the units of a configuration. -/
def ofConfiguration (host : Host) (configuration : Configuration) : Session :=
  let run := Run.ofConfiguration configuration host.toMachine (Javac.service host.setup)
    { executions := host.executions }
  match run.ending with
  | .ok status => { events := run.events, status := status, launches := run.state.launches }
  | .error fault =>
    { breakdown := fault.breakdown?
      events := run.events ++ faultEvents fault
      status := fault.status
      launches := run.state.launches }

/-- The session of an invocation. -/
def ofArguments (host : Host) (given : List String) : Session :=
  let arguments := withoutMarker given
  let session : Session :=
    match Configuration.ofArguments arguments with
    | .error fault =>
      { events := faultEvents (.arguments fault)
        status := (Fault.arguments fault).status
        launches := [] }
    | .ok configuration =>
      match configuration.action with
      | .help =>
        { events := [.printed ("\n" ++ Help.usage ++ "\n" ++ Help.options)]
          status := .success
          launches := [] }
      | .info =>
        { events := [.printed (Help.release ++ "\n" ++ Help.version)]
          status := .success
          launches := [] }
      | .compile => ofConfiguration host configuration
  { session with events := greeting arguments ++ session.events }

/-- The exit code of a session. -/
def exitCode (session : Session) : Nat :=
  session.status.code

/-- What an event writes on the standard output. -/
def outputOf (colour : Bool) : Event → String
  | .printed text =>
    (if colour then text else String.ofList (Terminal.plain text.toList)) ++ "\n"
  | _ => ""

/-- What an event writes on the error output, where records below a rank are left
out. -/
def errorOutputOf (threshold : Nat) : Event → String
  | .logged record => if threshold ≤ record.level.rank then record.line else ""
  | .passed text => text
  | .printed _ => ""

/-- What a session writes on the standard output. -/
def output (session : Session) (host : Host) : String :=
  String.join (session.events.map (outputOf host.colour))

/-- What a session writes on the error output. -/
def errorOutput (session : Session) (host : Host) : String :=
  String.join (session.events.map (errorOutputOf (Log.threshold host.environment.logLevel)))

end Session

end Transcompiler
