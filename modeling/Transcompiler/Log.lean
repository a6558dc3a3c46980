/-
# Log records

What the transcompiler does is recorded for whoever watches it, at two levels. A
record names the part of the tool that wrote it. Which records are written is
decided by the name of a level, which is read without regard to case.
-/

import Transcompiler.Text.Basic

namespace Transcompiler.Log

/-- How important a record is. -/
inductive Level where
  | debug
  | info
deriving DecidableEq, Repr

namespace Level

/-- The name of a level. -/
def name : Level → String
  | .debug => "DEBUG"
  | .info => "INFO"

/-- The rank of a level: the larger, the more important. -/
def rank : Level → Nat
  | .debug => 10
  | .info => 20

end Level

/-- The parts of the tool that write records. -/
inductive Channel where
  /-- Finding the outline of a unit. -/
  | outline
  /-- Calling the Java compiler. -/
  | javac
  /-- Compiling the units of an invocation. -/
  | run
  /-- Showing diagnostics. -/
  | diagnostics
deriving DecidableEq, Repr

/-- The name of a channel. -/
def Channel.name : Channel → String
  | .outline => "zepton.rewriter.lexer"
  | .javac => "zepton.toolchain"
  | .run => "zepton.compiler"
  | .diagnostics => "zepton.error_handler"

/-- A record of something that the tool did. -/
structure Record where
  /-- How important the record is. -/
  level : Level
  /-- Which part of the tool wrote it. -/
  channel : Channel
  /-- What happened. -/
  message : String
deriving DecidableEq, Repr

/-- A record as a line. -/
def Record.line (record : Record) : String :=
  record.level.name ++ " " ++ record.channel.name ++ ": " ++ record.message ++ "\n"

/-- The upper case of a character, if that consists of ASCII letters. The names of
levels do, so any other character may stay as it is. -/
def upperCase (c : Char) : Text :=
  if 'a' ≤ c ∧ c ≤ 'z' then [c.toUpper]
  else
    match c with
    | 'ß' => ['S', 'S']
    | 'ı' => ['I']
    | 'ſ' => ['S']
    | 'ﬀ' => ['F', 'F']
    | 'ﬁ' => ['F', 'I']
    | 'ﬂ' => ['F', 'L']
    | 'ﬃ' => ['F', 'F', 'I']
    | 'ﬄ' => ['F', 'F', 'L']
    | 'ﬅ' => ['S', 'T']
    | 'ﬆ' => ['S', 'T']
    | _ => [c]

/-- The rank from which on records are written if no level is asked for, or one
that is not known. -/
def defaultThreshold : Nat := 30

/-- The ranks of the levels that can be asked for. -/
def thresholds : List (String × Nat) :=
  [("CRITICAL", 50), ("FATAL", 50), ("ERROR", 40), ("WARNING", 30), ("WARN", 30), ("INFO", 20),
    ("DEBUG", 10), ("NOTSET", 0)]

/-- The rank from which on records are written, by the name of a level. -/
def threshold : Option String → Nat
  | none => defaultThreshold
  | some name =>
    (thresholds.lookup (String.ofList (name.toList.flatMap upperCase))).getD defaultThreshold

end Transcompiler.Log
