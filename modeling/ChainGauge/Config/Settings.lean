import ChainGauge.Config.Duration
import ChainGauge.Job.Tracking
import ChainGauge.Net.SocketAddress
import ChainGauge.Net.Url
import ChainGauge.Text.Message

/-!
# Settings

What the program is set up with: the chain to watch and its endpoints, contracts whose hashes are
given, where the metrics are served and how often they are renewed, and the tokens to track. Every
setting but the endpoints has a value of its own where none is given. `Settings.check` says whether
the program can start with the settings; the first fault counts.
-/

namespace ChainGauge

/-- How the nodes of a chain are reached. -/
structure RpcSettings where
  endpoints : List String
  /-- How long a node may take to answer. -/
  dialTimeout : Duration
  /-- How long a sign of life counts. -/
  recheckInterval : Duration
  deriving DecidableEq, Repr, Inhabited

/-- The settings that hold where none are given. -/
def RpcSettings.usual : RpcSettings :=
  ⟨[], .ofSeconds 60, .ofSeconds 5⟩

/-- Contracts whose hashes are given. -/
structure ContractSettings where
  neofs : Option String
  netmap : Option String
  container : Option String
  balance : Option String
  proxy : Option String
  deriving DecidableEq, Repr, Inhabited

/-- No contract. -/
def ContractSettings.usual : ContractSettings :=
  ⟨none, none, none, none, none⟩

/-- The settings of the program. -/
structure Settings where
  /-- Whether the storage network's chain is watched, or else the main chain. -/
  fsChain : Bool
  rpc : RpcSettings
  /-- The nodes of the main chain, with whose alphabet that of the watched chain is compared. -/
  mainChain : Option RpcSettings
  contracts : ContractSettings
  /-- Where the metrics are served; an address that starts with a colon means every interface. -/
  metricsEndpoint : String
  metricsInterval : Duration
  logLevel : String
  /-- The file with the positions of locations. -/
  locodePath : Option String
  tokens : List TrackedEntry
  deriving DecidableEq, Repr, Inhabited

/-- Why settings cannot be read or used. -/
inductive SettingsFault where
  /-- There is no file at a path. -/
  | noFile (path : String)
  /-- The file holds something else. -/
  | format
  | missing (setting : String)
  /-- An endpoint is no URL to send requests to. -/
  | endpoint (text : String)
  | socketEndpoint (text : String)
  | boolean (name text : String)
  | duration (name : String) (cause : Duration.Fault)
  | interval
  | listenAddress (text : String)
  deriving DecidableEq, Repr

namespace SettingsFault

/-- What kind of fault it is. -/
inductive Kind where
  | file
  | format
  | missing
  | endpoint
  | invalid
  deriving DecidableEq, Repr

/-- The kind of a fault. -/
def kind : SettingsFault → Kind
  | .noFile _ => .file
  | .format => .format
  | .missing _ => .missing
  | .endpoint _ => .endpoint
  | .socketEndpoint _ | .boolean _ _ | .duration _ _ | .interval | .listenAddress _ => .invalid

/-- The words in front of every fault of a kind. -/
def Kind.heading : Kind → String
  | .file => "can't read config file: "
  | .format => "can't parse config: "
  | .missing => "missing required setting: "
  | .endpoint => "invalid URL: "
  | .invalid => "invalid config: "

/-- The wording of a fault behind the heading of its kind. -/
def detail : SettingsFault → String
  | .noFile path => path ++ ": " ++ MissingFile.reason path
  | .format => ""
  | .missing setting => setting
  | .endpoint text => text
  | .socketEndpoint text =>
    text ++ ": websocket endpoints are not supported, use the node's http(s) address"
  | .boolean name text => name ++ ": expected a boolean, got " ++ Quoted.text text
  | .duration name cause => name ++ ": " ++ cause.message
  | .interval => "metrics.interval must be positive"
  | .listenAddress text =>
    "metrics.endpoint " ++ Quoted.text text ++ ": invalid socket address syntax"

/-- The wording of a fault. -/
def message (f : SettingsFault) : String :=
  f.kind.heading ++ f.detail

end SettingsFault

namespace Settings

/-- The settings that hold where none are given. -/
def usual : Settings :=
  { fsChain := false, rpc := .usual, mainChain := none, contracts := .usual,
    metricsEndpoint := ":16512", metricsInterval := .ofSeconds 15, logLevel := "info",
    locodePath := none, tokens := [] }

variable (s : Settings)

/-- The chain that is watched. -/
def mode : ChainMode :=
  if s.fsChain then .fsChain else .mainChain

/-- The endpoints of the main chain, if there are any. -/
def mainEndpoints : Option (List String) :=
  (s.mainChain.map (·.endpoints)).filter fun es => !es.isEmpty

/-- The address at which the metrics are served. -/
def listenAddress : Except SettingsFault SocketAddress :=
  let text := Text.trim s.metricsEndpoint
  let full :=
    match text.toList with
    | ':' :: port => "0.0.0.0:" ++ String.ofList port
    | _ => text
  match SocketAddress.ofText? full with
  | some address => .ok address
  | none => .error (.listenAddress text)

/-- The level of the log that a name stands for. -/
def levelOf (name : String) : String :=
  match Text.lower (Text.trim name) with
  | "debug" => "debug"
  | "warn" => "warn"
  | "error" | "fatal" | "panic" => "error"
  | _ => "info"

/-- What goes into the log. -/
def logFilter : String :=
  levelOf s.logLevel ++ ",actix_web=info"

/-- Checks that requests can be sent to an endpoint. -/
def checkEndpoint (endpoint : String) : Except SettingsFault Unit :=
  match Url.parse endpoint with
  | .error _ => .error (.endpoint endpoint)
  | .ok url =>
    if ["http", "https"].contains url.scheme then .ok ()
    else if ["ws", "wss"].contains url.scheme then .error (.socketEndpoint endpoint)
    else .error (.endpoint endpoint)

/-- Checks the settings. -/
def check : Except SettingsFault Unit := do
  if s.rpc.endpoints.isEmpty then throw (.missing "chain.rpc.endpoint")
  s.rpc.endpoints.forM checkEndpoint
  (s.mainEndpoints.getD []).forM checkEndpoint
  if s.metricsInterval.nanos = 0 then throw .interval
  let _ ← s.listenAddress
  pure ()

end Settings

end ChainGauge
