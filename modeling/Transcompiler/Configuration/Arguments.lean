/-
# Reading the arguments of an invocation

Arguments are read from left to right: options as long as they begin with a
hyphen, then source files to the end. `-javac` passes on everything in front of
the next source file, and a request for help or information settles the
invocation at once, whatever stands behind it. The first argument that does not
fit is the fault of the invocation.
-/

import Transcompiler.Configuration.Basic

namespace Transcompiler

/-- Why arguments are not an invocation. -/
inductive ArgumentFault where
  /-- There are no arguments. -/
  | nothingGiven
  /-- No source file is named. -/
  | noFiles
  /-- Nothing stands between `-javac` and the next source file. -/
  | noJavacArguments
  /-- The reduction is asked for besides another one. -/
  | conflict (reduction : Verbosity.Reduction)
  /-- The option is not known. -/
  | unknownOption (argument : String)
  /-- The option stands behind a source file. -/
  | optionAfterFiles (argument : String)
  /-- The file is not named as a source file. -/
  | wrongExtension (argument : String)
deriving DecidableEq, Repr

namespace ArgumentFault

/-- The text of a fault. -/
def message : ArgumentFault → String
  | .nothingGiven => "No compiler options or files given! Use -help for options."
  | .noFiles => "No source files given! Use -help for options."
  | .noJavacArguments =>
    "Zep option: '-javac' must be followed by at least one compiler option."
  | .conflict .brief => "Option -brief ambiguous with option -hush and/or -mute option."
  | .conflict .hush => "Option -hush ambiguous with option -brief and/or -mute option."
  | .conflict .mute => "Option -mute ambiguous with -brief and/or -hush option."
  | .unknownOption argument => "Zep option: '" ++ argument ++ "' is not recognized."
  | .optionAfterFiles argument =>
    "Zep option: '" ++ argument ++ "' must precede ZeptoN source code files list."
  | .wrongExtension argument => "File: '" ++ argument ++ "' does not have '.zep' extension."

end ArgumentFault

namespace Configuration

/-- The options of an invocation. -/
inductive Flag where
  | time
  | echo
  | final
  | reduce (reduction : Verbosity.Reduction)
  | javac
  | help
  | info
deriving DecidableEq, Repr

/-- The option that an argument spells. -/
def Flag.ofArgument? : String → Option Flag
  | "-time" => some .time
  | "-echo" => some .echo
  | "-final" => some .final
  | "-brief" => some (.reduce .brief)
  | "-hush" => some (.reduce .hush)
  | "-mute" => some (.reduce .mute)
  | "-javac" => some .javac
  | "-help" => some .help
  | "-?" => some .help
  | "-info" => some .info
  | "-v" => some .info
  | _ => none

/-- Whether an argument has the form of an option. -/
def isOption (argument : String) : Bool :=
  argument.toList.head? = some '-'

/-- Whether an argument names a source file. -/
def isSourceName (argument : String) : Bool :=
  ".zep".toList <:+ argument.toList

/-- A configuration with its verbosity reduced. Asking for the same reduction
again changes nothing; asking for a second one is a conflict. -/
def reduce (configuration : Configuration) (reduction : Verbosity.Reduction) :
    Except ArgumentFault Configuration :=
  if configuration.verbosity = .full ∨ configuration.verbosity = reduction.toVerbosity then
    .ok { configuration with verbosity := reduction.toVerbosity }
  else .error (.conflict reduction)

/-- A configuration with its source files, all of which must be named as such. -/
def withFiles (configuration : Configuration) (arguments : List String) :
    Except ArgumentFault Configuration :=
  match arguments.find? (!isSourceName ·) with
  | none => .ok { configuration with files := arguments }
  | some argument =>
    if isOption argument then .error (.optionAfterFiles argument)
    else .error (.wrongExtension argument)

/-- Reads the options that are left, and the source files behind them. -/
def readOptions (configuration : Configuration) :
    List String → Except ArgumentFault Configuration
  | [] => .error .noFiles
  | argument :: rest =>
    if isOption argument then
      match Flag.ofArgument? argument with
      | none => .error (.unknownOption argument)
      | some .time => readOptions { configuration with time := true } rest
      | some .echo => readOptions { configuration with echo := true } rest
      | some .final => readOptions { configuration with final := true } rest
      | some (.reduce reduction) =>
        match configuration.reduce reduction with
        | .error fault => .error fault
        | .ok reduced => readOptions reduced rest
      | some .javac =>
        let passed := rest.takeWhile (!isSourceName ·)
        if passed = [] then .error .noJavacArguments
        else
          readOptions
            { configuration with javacArguments := configuration.javacArguments ++ passed }
            (rest.dropWhile (!isSourceName ·))
      | some .help => .ok { action := .help }
      | some .info => .ok { action := .info }
    else configuration.withFiles (argument :: rest)
termination_by arguments => arguments.length
decreasing_by
  all_goals simp only [List.length_cons]
  all_goals first
    | omega
    | exact Nat.lt_succ_of_le (List.dropWhile_suffix _).length_le

/-- The configuration that the arguments of an invocation ask for. -/
def ofArguments (arguments : List String) : Except ArgumentFault Configuration :=
  if arguments = [] then .error .nothingGiven else readOptions {} arguments

end Configuration

end Transcompiler
