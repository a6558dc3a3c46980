/-
# Calling the Java compiler

Which executable is called, and with which arguments.
-/

import Transcompiler.FileSystem
import Transcompiler.Service

namespace Transcompiler

/-- The part of the environment that the tool looks at. A variable that is not set
is `none`. -/
structure Environment where
  /-- The executable of the Java compiler, from `ZEP_JAVAC`. -/
  zepJavac : Option String := none
  /-- The directory of the Java installation, from `JAVA_HOME`. -/
  javaHome : Option String := none
  /-- The level of the log records, from `ZEP_LOG_LEVEL`. -/
  logLevel : Option String := none
  /-- The executable `javac` that the search path leads to. -/
  javacOnPath : Option String := none

namespace Javac

/-- All that a call of the Java compiler depends on besides its job. -/
structure Setup where
  /-- The executable, if it is given explicitly. -/
  executable : Option String := none
  /-- The directory for the classes, if it is given explicitly. -/
  outputDirectory : Option Path := none
  /-- The environment. -/
  environment : Environment := {}
  /-- The file system. -/
  files : FileSystem
  /-- The working directory. -/
  workingDirectory : Path
  /-- The directory in which the Java text of a unit is put. -/
  scratchDirectory : Path

/-- A setting that is there and not empty. -/
def given (setting : Option String) : Option String :=
  setting.filter (· ≠ "")

/-- Where a Java installation has its executable. -/
def installation (javaHome : String) : Path :=
  (Path.ofString javaHome).join (Path.ofString "bin/javac")

/-- The executable in a Java installation, if one is named and it is there. -/
def installed (files : FileSystem) : Option String → Except Breakdown (Option String)
  | none => .ok none
  | some javaHome =>
    let candidate := installation javaHome
    match files.entry candidate with
    | .nameTooLong => .error (.nameTooLong candidate)
    | .forbidden => .error (.forbidden candidate)
    | entry => .ok (if entry.isPresent then some candidate.toString else none)

namespace Setup

/-- The executable of the Java compiler: the one given explicitly, the one named by
the environment, the one of the Java installation, the one on the search path. An
empty setting counts as none. -/
def resolve (setup : Setup) : Except Failure String :=
  let environment := setup.environment
  match given setup.executable <|> given environment.zepJavac with
  | some executable => .ok executable
  | none =>
    match installed setup.files (given environment.javaHome) with
    | .error breakdown => .error (.ofBreakdown breakdown)
    | .ok found =>
      match found <|> environment.javacOnPath with
      | some executable => .ok executable
      | none => .error (.invocation "javac not found; set ZEP_JAVAC or JAVA_HOME.")

/-- The command that compiles a Java text. Messages are asked for in English. The
options may say where the classes go; otherwise they go to the directory of the
setup. -/
def command (setup : Setup) (executable : String) (source : Path) (options : List String) :
    List String :=
  [executable, "-J-Duser.language=en", "-encoding", "UTF-8"] ++
    (if "-d" ∈ options then []
      else ["-d", (setup.outputDirectory.getD setup.workingDirectory).toString]) ++
    options ++ [source.toString]

end Setup

end Javac

end Transcompiler
