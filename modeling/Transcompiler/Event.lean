/-
# Events

All that an invocation lets the outside see, in the order in which it happens:
what it prints, what it records, and what the Java compiler printed itself.
-/

import Transcompiler.Log

namespace Transcompiler

/-- Something that can be seen from outside. -/
inductive Event where
  /-- A text is printed, on a line of its own. -/
  | printed (text : String)
  /-- A record is written. -/
  | logged (record : Log.Record)
  /-- The output of the Java compiler is passed on as it is. -/
  | passed (text : String)
deriving DecidableEq, Repr

namespace Event

/-- A record for those who look for details. -/
def debug (channel : Log.Channel) (message : String) : Event :=
  .logged ⟨.debug, channel, message⟩

/-- A record for those who follow the course of an invocation. -/
def info (channel : Log.Channel) (message : String) : Event :=
  .logged ⟨.info, channel, message⟩

/-- The text that an event prints. -/
def printed? : Event → Option String
  | .printed text => some text
  | _ => none

/-- The output of the Java compiler that an event passes on. -/
def passed? : Event → Option String
  | .passed text => some text
  | _ => none

/-- The texts that are printed. -/
def allPrinted (events : List Event) : List String :=
  events.filterMap printed?

/-- The output of the Java compiler that is passed on. -/
def allPassed (events : List Event) : String :=
  String.join (events.filterMap passed?)

end Event

end Transcompiler
