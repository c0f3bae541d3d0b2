import ChainGauge.Startup.CommandLine
import ChainGauge.Startup.Plan
import ChainGauge.Startup.Variables

/-!
# Without a network

Where no node can be reached every exchange fails. Calls and startup still have their outcome then,
which is how a program that is cut off from the network ends.
-/

namespace ChainGauge

/-- The outcome of calls when every exchange fails, with the number for the next request. -/
def Calls.offline {α : Type} (c : Calls α) (number : Nat) : Except ChainError α × Nat :=
  Id.run ((c.run number).hold fun _ => pure .failed)

namespace Startup

/-- Answers a question of starting up, where files can be read but no node can be reached. -/
def Ask.offline (files : String → Option String) : (a : Ask) → a.Answer
  | .version endpoint _ => (Calls.offline (endpoint.answer .version) 1).1
  | .query _ => .error .noHealthyClient
  | .file path => files path

/-- Starts up without a network. -/
def buildOffline (files : String → Option String) (s : Settings) : Except StartupFault Plan :=
  Id.run ((build s).run.hold fun a => pure (a.offline files))

end Startup

namespace CommandLine

/-- Starts up with the settings of a file, if one is named, without a network. -/
def startOffline (environment files : String → Option String) (path : Option String) :
    Except StartupFault Plan := do
  let s ← (Settings.load (path.map fun p => ⟨p, files p⟩) environment).mapError .settings
  Startup.buildOffline files s

/-- The outcome of a run that started up or did not. -/
def outcomeOf : Except StartupFault Plan → Outcome
  | .ok _ => ⟨0, ""⟩
  | .error _ => failed

/-- The environment with what the file of variables adds to it. -/
def withFile (environment files : String → Option String) : String → Option String :=
  match files Variables.fileName with
  | none => environment
  | some text => Variables.extend environment (Variables.ofText text)

/-- The outcome of a command line without a network. -/
def offline (args : List String) (environment files : String → Option String) : Outcome :=
  let environment := withFile environment files
  (Request.ofArgs args (environment pathVariable)).outcome fun path =>
    outcomeOf (startOffline environment files path)

end CommandLine

end ChainGauge
