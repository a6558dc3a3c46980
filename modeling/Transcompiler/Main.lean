/-
# The executable

Gathers what a session depends on, runs it, and writes what it leaves behind. The
file system is looked at only where the session will look: at the named source
files and at the executable of the Java installation. This executable starts no
processes itself, so a session that calls the Java compiler is told that the
system refused.
-/

import Transcompiler.Session

namespace Transcompiler.Main

/-- Whether a path that may not be read leads to something, rather than through a
directory that may not be searched. -/
def isThere (path : Path) : IO Bool := do
  try
    let _ ← IO.FS.realPath path.toString
    return true
  catch _ => return false

/-- What stands at a path of the machine. Links in a circle and names that are too long
are reported as arguments that make no sense, and only their codes differ. A path
through a file cannot be opened, and the report names it; a directory can be opened,
and only reading it fails. -/
def lookAt (path : Path) : IO Entry := do
  if path.hasZero then return .zeroInPath
  try
    let bytes ← IO.FS.readBinFile path.toString
    return .file bytes.data.toList
  catch
    | .noFileOrDirectory .. => return .missing
    | .invalidArgument _ code _ => return if code = 0 - 40 then .circular else .nameTooLong
    | .permissionDenied .. => return if ← isThere path then .locked else .forbidden
    | .inappropriateType (some _) .. => return .blocked
    | .inappropriateType none .. => return .directory
    | _ => return .locked

/-- The file system of the machine at some paths; nothing is seen elsewhere. -/
def fileSystemAt (paths : List Path) : IO FileSystem := do
  let seen ← paths.mapM fun path => return (path, ← lookAt path)
  return { entry := fun path => ((seen.find? (·.1 = path)).map (·.2)).getD .missing }

/-- The first of some directories in which `javac` is. -/
def javacIn : List Text → IO (Option String)
  | [] => return none
  | directory :: rest => do
    let candidate := (Path.ofText directory).join (Path.ofString "javac")
    if (← lookAt candidate) = .missing then javacIn rest
    else return some candidate.toString

/-- The environment of the process. -/
def environment : IO Environment := do
  let searchPath := (← IO.getEnv "PATH").getD ""
  return {
    zepJavac := ← IO.getEnv "ZEP_JAVAC"
    javaHome := ← IO.getEnv "JAVA_HOME"
    logLevel := ← IO.getEnv "ZEP_LOG_LEVEL"
    javacOnPath := ← javacIn (Text.splitAtEvery ':' searchPath.toList) }

/-- The paths at which a session looks. -/
def pathsOf (environment : Environment) (arguments : List String) : List Path :=
  arguments.map Path.ofString ++
    (environment.javaHome.map Javac.installation).toList

/-- A process that is not started. -/
def refused : Javac.Execution where
  ending := .error { kind := .system "OSError", text := "no process can be started" }

/-- The room that this executable gives to a line with a caret. -/
def memory : Memory where
  blanks := 0x40000000
  blanks_le := by decide

/-- The machine as a session with these arguments sees it. -/
def host (arguments : List String) : IO Host := do
  let environment ← environment
  return {
    environment := environment
    files := ← fileSystemAt (pathsOf environment arguments)
    memory := memory
    workingDirectory := Path.ofString (← IO.currentDir).toString
    scratchDirectory := Path.ofString "/tmp"
    executions := List.replicate arguments.length refused }

end Transcompiler.Main

open Transcompiler in
/-- Runs a session and ends with its exit code. -/
def main (arguments : List String) : IO UInt32 := do
  let host ← Main.host arguments
  let session := Session.ofArguments host arguments
  IO.eprint (session.errorOutput host)
  IO.print (session.output host)
  if let some breakdown := session.breakdown then
    IO.eprintln (breakdown.name ++ ": " ++ breakdown.message)
  return UInt32.ofNat session.exitCode
