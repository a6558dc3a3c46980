/-
# The configuration of an invocation

A configuration says which units to compile, how to call the Java compiler and
how much to report. Reporting is no concern of the compiler: only the arguments
passed on to it and the choice between debug and final code reach it.
-/

namespace Transcompiler

/-- How much of the compiler's diagnostics is reported. -/
inductive Verbosity where
  /-- Every diagnostic. -/
  | full
  /-- Only how many diagnostics of each kind there were. -/
  | brief
  /-- Only errors. -/
  | hush
  /-- Nothing. -/
  | mute
deriving DecidableEq, Repr

namespace Verbosity

/-- The name of a verbosity. -/
def name : Verbosity → String
  | .full => "full"
  | .brief => "brief"
  | .hush => "hush"
  | .mute => "mute"

/-- The verbosities that report less than everything. An invocation chooses at
most one of them. -/
inductive Reduction where
  | brief
  | hush
  | mute
deriving DecidableEq, Repr

/-- A reduction as a verbosity. -/
def Reduction.toVerbosity : Reduction → Verbosity
  | .brief => .brief
  | .hush => .hush
  | .mute => .mute

end Verbosity

/-- What an invocation asks for. -/
inductive Action where
  | compile
  | help
  | info
deriving DecidableEq, Repr

/-- The name of an action. -/
def Action.name : Action → String
  | .compile => "compile"
  | .help => "help"
  | .info => "info"

/-- What an invocation asks for, and how. -/
structure Configuration where
  /-- How much of the compiler's diagnostics is reported. -/
  verbosity : Verbosity := .full
  /-- Whether the classes are compiled without debug information. -/
  final : Bool := false
  /-- Whether the options and the verdict of each unit are printed. -/
  echo : Bool := false
  /-- Whether the time taken by each unit is printed. -/
  time : Bool := false
  /-- The source files, in the order in which they are compiled. -/
  files : List String := []
  /-- The arguments passed on to the Java compiler. -/
  javacArguments : List String := []
  /-- What is asked for. -/
  action : Action := .compile
deriving DecidableEq, Repr

namespace Configuration

/-- The options of each call of the Java compiler: the arguments passed on, and
one option on debug information behind them. -/
def compilerOptions (configuration : Configuration) : List String :=
  configuration.javacArguments ++ [if configuration.final then "-g:none" else "-g"]

end Configuration

end Transcompiler
