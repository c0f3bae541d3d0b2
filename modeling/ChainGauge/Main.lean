import ChainGauge.Startup.Offline

/-!
# The program

The command line of the exporter. This program has no connection to the network of its own, so a run
ends with the fault of its startup.
-/

namespace ChainGauge.Program

/-- The content of a file, if it can be read. -/
def readContent (path : String) : IO (Option String) := do
  try
    let content ← IO.FS.readFile path
    pure (some content)
  catch _ => pure none

/-- The definitions of the file of variables, which is looked for in the working directory and in
those above it, up to a number of steps. -/
def readDefinitions (path : String) : Nat → IO (List Variables.Definition)
  | 0 => pure []
  | steps + 1 => do
    match ← readContent path with
    | some text => pure (Variables.ofText text)
    | none => readDefinitions ("../" ++ path) steps

/-- The variables of the environment that the program looks at, with those of the file. -/
def readVariables : IO (List (String × String)) := do
  let definitions ← readDefinitions Variables.fileName 64
  let names := CommandLine.pathVariable :: Settings.overrides.map (·.name)
  let values ← (names ++ Variables.mentioned definitions).mapM fun name => do
    let value ← IO.getEnv name
    pure (value.map fun v => (name, v))
  let given := values.filterMap fun v => v
  let environment := Variables.extend (fun name => given.lookup name) definitions
  pure (names.filterMap fun name => (environment name).map fun v => (name, v))

/-- The files that a run reads. -/
def readFiles (environment : List (String × String)) (path : Option String) :
    IO (List (String × String)) := do
  let content : Option String ←
    match path with
    | some p => readContent p
    | none => pure none
  let file : Option Settings.File := path.map fun p => ⟨p, content⟩
  let settings := Settings.load file fun name => environment.lookup name
  let geo := settings.toOption.bind (·.locodePath)
  let table : Option String ←
    match geo with
    | some p => readContent p
    | none => pure none
  let entry (p c : Option String) : List (String × String) := ((p.bind fun p => c.map (p, ·))).toList
  pure (entry path content ++ entry geo table)

/-- Runs with the settings of a file, if one is named. -/
def runWith (environment : List (String × String)) (path : Option String) : IO UInt32 := do
  let files ← readFiles environment path
  match CommandLine.startOffline (fun n => environment.lookup n) (fun p => files.lookup p) path with
  | .ok _ => pure 0
  | .error e =>
    IO.eprintln e.message
    pure 1

/-- Answers a command line. -/
def answer (args : List String) : IO UInt32 := do
  let environment ← readVariables
  let request := CommandLine.Request.ofArgs args (environment.lookup CommandLine.pathVariable)
  match request with
  | .run path => runWith environment path
  | _ =>
    let outcome := request.outcome fun _ => CommandLine.failed
    IO.print outcome.output
    pure (UInt32.ofNat outcome.code)

end ChainGauge.Program

/-- The program. -/
def main (args : List String) : IO UInt32 :=
  ChainGauge.Program.answer args
