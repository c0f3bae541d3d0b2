import ChainGauge.Config.File
import ChainGauge.Metrics.Routes

/-!
# The command line

The program takes one option, the path of the file of settings, which may stand in a variable of the
environment instead, and the two options that ask about the program itself. Options are looked at
from left to right, and the first that asks or does not fit decides. Two dashes end the options, and
nothing may stand behind them.
-/

namespace ChainGauge.CommandLine

/-- What a command line asks for. -/
inductive Request where
  | version
  | help
  /-- To run with the settings of a file, if one is named. -/
  | run (path : Option String)
  /-- The command line does not fit. -/
  | unusable
  deriving DecidableEq, Repr

/-- The variable with the path of the file. -/
def pathVariable : String := "NEO_EXPORTER_CONFIG"

/-- The value of the option that is joined to its name, behind a sign of equality or, for the short
name, also without. -/
def joined? (arg : String) : Option String :=
  match arg.toList with
  | '-' :: '-' :: 'c' :: 'o' :: 'n' :: 'f' :: 'i' :: 'g' :: '=' :: value => some (String.ofList value)
  | '-' :: 'c' :: '=' :: value => some (String.ofList value)
  | '-' :: 'c' :: value => if value.isEmpty then none else some (String.ofList value)
  | _ => none

/-- Whether an argument stands for an option and for no value. -/
def isOption (arg : String) : Bool :=
  arg.startsWith "-" && arg ≠ "-"

/-- What an argument asks about the program; behind its letter a short option may hold anything. -/
def question? (arg : String) : Option Request :=
  if arg = "--version" then some .version
  else if arg = "--help" then some .help
  else
    match arg.toList with
    | '-' :: 'V' :: _ => some .version
    | '-' :: 'h' :: _ => some .help
    | _ => none

/-- Reads arguments; `path` is what was named before. -/
def readFrom (path : Option String) : List String → Request
  | [] | ["--"] => .run path
  | "--config" :: value :: rest | "-c" :: value :: rest =>
    if path.isSome || isOption value || value.isEmpty then .unusable
    else readFrom (some value) rest
  | arg :: rest =>
    match question? arg, joined? arg with
    | some r, _ => r
    | none, some value =>
      if path.isSome || value.isEmpty then .unusable else readFrom (some value) rest
    | none, none => .unusable

/-- What a command line asks for, with the variable of the environment. -/
def Request.ofArgs (args : List String) (named : Option String) : Request :=
  match readFrom none args with
  | .run none =>
    match named with
    | some "" => .unusable
    | path => .run path
  | r => r

/-- What the program prints and the code it ends with. -/
structure Outcome where
  code : Nat
  output : String
  deriving DecidableEq, Repr

/-- The line that tells the version. -/
def versionLine : String :=
  "neo-exporter " ++ Routes.version ++ "\n"

/-- The text that tells about the program. -/
def helpText : String :=
  "Prometheus exporter for NeoFS network state\n\nUsage: neo-exporter [OPTIONS]\n\nOptions:\n" ++
    "  -c, --config <PATH>  Path to the YAML config file [env: NEO_EXPORTER_CONFIG=]\n" ++
    "  -h, --help           Print help\n" ++
    "  -V, --version        Print version\n"

/-- The outcome of a run that fails. -/
def failed : Outcome := ⟨1, ""⟩

/-- The outcome of a request, where `run` tells that of a run. -/
def Request.outcome (run : Option String → Outcome) : Request → Outcome
  | .version => ⟨0, versionLine⟩
  | .help => ⟨0, helpText⟩
  | .unusable => ⟨2, ""⟩
  | .run path => run path

end ChainGauge.CommandLine
