/-
# Compiler services

A compiler service takes a Java unit and answers with a verdict and diagnostics,
or fails. It has a state of its own, which each call may change, and a clock that
only its calls move on. What a service is beyond that does not matter to the
transcompiler, so everything it does is defined, and can be proved, for every
service at once.

A script is a service that gives prepared answers.
-/

import Transcompiler.Breakdown
import Transcompiler.Configuration.Basic
import Transcompiler.Diagnostic.Basic
import Transcompiler.Event
import Transcompiler.Java.Unit

namespace Transcompiler

/-- What a compiler service is asked to do. -/
structure Job where
  /-- The name of the unit. -/
  unitName : Text
  /-- The Java text of the unit. -/
  source : Text
  /-- The options of the compiler. -/
  options : List String
deriving DecidableEq, Repr

/-- The job of compiling a unit under a configuration. -/
def Job.ofUnit (configuration : Configuration) (unit : JavaUnit) : Job where
  unitName := unit.logicalName
  source := unit.source
  options := configuration.compilerOptions

/-- The answer of a compiler service. -/
structure Outcome where
  /-- Whether the unit was accepted. -/
  accepted : Bool
  /-- What the compiler had to say. -/
  diagnostics : List Diagnostic := []
  /-- The time that the compiler took, in milliseconds. -/
  elapsed : Int := 0
deriving DecidableEq, Repr

namespace Failure

/-- What kind of failure a service ends in. -/
inductive Kind where
  /-- The compiler could not be called. -/
  | invocation
  /-- The operating system refused something. -/
  | system (name : String)
  /-- Anything else. -/
  | other (name : String)
deriving DecidableEq, Repr

/-- The name of a kind of failure. -/
def Kind.name : Kind → String
  | .invocation => "ToolchainInvocationError"
  | .system name => name
  | .other name => name

/-- What a failure is called, and what it says. -/
structure Description where
  /-- The name of its kind. -/
  name : String
  /-- Its text. -/
  text : String
deriving DecidableEq, Repr

end Failure

/-- A failure of a service. -/
structure Failure where
  /-- The kind of the failure. -/
  kind : Failure.Kind
  /-- Its text. -/
  text : String
  /-- The failure behind it, if it only passes that on. -/
  cause : Option Failure.Description := none
deriving DecidableEq, Repr

namespace Failure

/-- The failure to call the compiler. -/
def invocation (text : String) : Failure where
  kind := .invocation
  text := text

/-- A breakdown inside of a service as a failure of the service. -/
def ofBreakdown (breakdown : Breakdown) : Failure where
  kind :=
    match breakdown with
    | .nameTooLong _ => .system breakdown.name
    | .forbidden _ => .system breakdown.name
    | _ => .other breakdown.name
  text := breakdown.message

/-- A failure described by itself. -/
def description (failure : Failure) : Description :=
  ⟨failure.kind.name, failure.text⟩

/-- The description of a failure for the user: if the compiler could not be called,
the reason for that is told instead. -/
def reported (failure : Failure) : Description :=
  match failure.kind with
  | .invocation => failure.cause.getD failure.description
  | _ => failure.description

/-- A failure as a failure to call the compiler, if the operating system refused
something. Other failures stay what they are. -/
def asInvocation (failure : Failure) : Failure :=
  match failure.kind with
  | .system _ =>
    { kind := .invocation, text := failure.text, cause := some failure.description }
  | _ => failure

end Failure

/-- What comes of a call of a service. -/
structure Reply (σ : Type) where
  /-- The answer, or the failure. -/
  result : Except Failure Outcome
  /-- What could be seen during the call. -/
  events : List Event
  /-- The state of the service after the call. -/
  state : σ

/-- A compiler service with states of type `σ`. -/
structure Service (σ : Type) where
  /-- Does a job. -/
  compile : Job → σ → Reply σ
  /-- The reading of the clock in a state. -/
  clock : σ → Float

/-- A service that gives prepared answers. -/
structure Script where
  /-- The answers that are left, each with the seconds that it takes. -/
  answers : List (Except Failure Outcome × Float)
  /-- The reading of the clock. -/
  clock : Float := 0

/-- Scripts as services. When no answer is left, every unit is accepted. -/
def Script.service : Service Script where
  compile _ script :=
    match script.answers with
    | [] => ⟨.ok { accepted := true }, [], script⟩
    | (result, seconds) :: answers => ⟨result, [], ⟨answers, script.clock + seconds⟩⟩
  clock := Script.clock

end Transcompiler
