import ChainGauge.Config.File
import ChainGauge.Contract.Names
import ChainGauge.Contract.Native
import ChainGauge.Job.MainChain
import ChainGauge.Job.Sources
import ChainGauge.Metrics.Routes
import ChainGauge.Pool.FanOut
import ChainGauge.Rpc.Endpoint

/-!
# From settings to a plan

Starting up means to reach the nodes, to find the contracts and to resolve what to track. It is a
dialogue with nodes and files; its outcome is a plan of what to run, or the first fault, which ends
the program. A contract is taken from the settings if its setting is not blank, and is looked up with
the name service otherwise; the proxy contract may be missing.
-/

namespace ChainGauge

/-- Why the program cannot start. -/
inductive StartupFault where
  | settings (cause : SettingsFault)
  | chain (cause : ChainError)
  | contract (name : String) (cause : ChainError)

/-- The wording of a fault. -/
def StartupFault.message : StartupFault → String
  | .settings e => e.message
  | .chain e => "chain access: " ++ e.message
  | .contract name e => "can't resolve " ++ name ++ " contract: " ++ e.message

/-- What to run. -/
structure Plan where
  job : Job
  sources : Sources
  metrics : Metrics
  /-- The time between two scrapes. -/
  interval : Duration
  listen : SocketAddress
  /-- The time between two checks of each group of connections. -/
  recheckPeriods : List Duration

namespace Startup

/-- A question of starting up. -/
inductive Ask where
  /-- The version of a node, which may take so long to answer. -/
  | version (endpoint : Endpoint) (timeout : Duration)
  /-- A query to the watched chain. -/
  | query (q : Query)
  /-- The content of a file. -/
  | file (path : String)

/-- What comes of a question. -/
abbrev Ask.Answer : Ask → Type
  | .version _ _ => Except ChainError NodeVersion
  | .query q => q.Reply
  | .file _ => Option String

/-- A dialogue that starts something up. -/
abbrev Building (α : Type) : Type :=
  ExceptT StartupFault (Dialogue Ask Ask.Answer) α

/-- Asks the watched chain. -/
def onChain (q : Query) : Dialogue Ask Ask.Answer q.Reply :=
  Dialogue.once (Ask.query q)

/-- Has a dialogue with the watched chain. -/
def converse {α : Type} (c : Chain α) : Dialogue Ask Ask.Answer (Except ChainError α) :=
  c.run.hold onChain

/-- Goes on with an outcome, whose failure has a meaning. -/
def settle {α : Type} (fault : ChainError → StartupFault) (r : Except ChainError α) : Building α :=
  ExceptT.mk (pure (r.mapError fault))

/-- Has a dialogue with the watched chain that must not fail. -/
def must {α : Type} (c : Chain α) : Building α :=
  ExceptT.mk do
    let r ← converse c
    pure (r.mapError .chain)

/-- Dials an address. -/
def dial (timeout : Duration) (text : String) : Dialogue Ask Ask.Answer (Except ChainError Unit) :=
  match Endpoint.parse text with
  | .error e => pure (.error e)
  | .ok endpoint => do
    let r : Except ChainError NodeVersion ← Dialogue.once (Ask.version endpoint timeout)
    pure (r.map fun _ => ())

/-- Dials addresses in turn up to the first that answers. -/
def dialFirst (timeout : Duration) : List String → Dialogue Ask Ask.Answer (Except ChainError Unit)
  | [] => pure (.error .noHealthyClient)
  | text :: rest => do
    match ← dial timeout text with
    | .ok () => pure (.ok ())
    | .error _ => dialFirst timeout rest

/-- Dials all addresses; the first that does not answer decides. -/
def dialEvery (timeout : Duration) (texts : List String) :
    Dialogue Ask Ask.Answer (Except ChainError Unit) :=
  FanOut.dialEvery (dial timeout) texts

/-- There must be an address. -/
def nonempty (endpoints : List String) : Building Unit :=
  settle .chain (if endpoints.isEmpty then .error .noEndpoint else .ok ())

/-- The time between two checks of a pool; the usual one where the settings give none. -/
def recheckPeriod (rpc : RpcSettings) : Duration :=
  if rpc.recheckInterval.nanos = 0 then ⟨Pool.defaultInterval⟩ else rpc.recheckInterval

/-- Connects a pool and gives the time between its checks. -/
def connectPool (rpc : RpcSettings) : Building Duration := do
  nonempty rpc.endpoints
  let r ← ExceptT.lift (dialFirst rpc.dialTimeout rpc.endpoints)
  settle .chain r
  pure (recheckPeriod rpc)

/-- Connects every address of the watched chain. -/
def connectEvery (rpc : RpcSettings) : Building Unit := do
  nonempty rpc.endpoints
  let r ← ExceptT.lift (dialEvery rpc.dialTimeout rpc.endpoints)
  settle .chain r

/-- The name service of the watched chain; a chain where it is not found counts as one without. -/
def nameService : Building Names.Service := do
  let r ← ExceptT.lift (converse Names.find)
  match r with
  | .ok hash => pure (.contract hash)
  | .error _ => pure .absent

/-- The setting of a contract without blanks around it, unless it is blank. -/
def given? (setting : Option String) : Option String :=
  (setting.map Text.trim).filter fun s => !s.isEmpty

/-- The hash of a contract that must be there. -/
def contract (service : Names.Service) (name : String) (setting : Option String) :
    Building ScriptHash :=
  match given? setting with
  | some text => settle (.contract name) ((ScriptHash.parse text).mapError .hash)
  | none => do
    let r ← ExceptT.lift (converse (Names.resolve service name))
    settle (.contract name) r

/-- The hash of the proxy contract, which may be missing where no setting names it. -/
def proxy (service : Names.Service) (setting : Option String) : Building (Option ScriptHash) :=
  match given? setting with
  | some _ => some <$> contract service "proxy" setting
  | none => do
    let r ← ExceptT.lift (converse (Names.resolve service "proxy"))
    pure r.toOption

/-- The positions of locations, if a file is named. -/
def locations (path : Option String) : Building (Option LocodeTable) :=
  match path with
  | none => pure none
  | some path => do
    let content : Option String ← ExceptT.lift (Dialogue.once (Ask.file path))
    match content with
    | none => settle .chain (.error (.locode (LocodeTable.missing path)))
    | some s =>
      match LocodeTable.ofText? s with
      | none => settle .chain (.error .format)
      | some table => pure (some table)

/-- Answers a question about what to track. -/
def onTracking (service : Names.Service) :
    (q : Tracking.Lookup) → Dialogue Ask Ask.Answer q.Reply
  | .resolve name => converse (Names.resolve service name)
  | .symbol token => converse (Token.symbol token)

/-- What to track. -/
def tokens (service : Names.Service) (entries : List TrackedEntry) : Building (List TrackedToken) := do
  let r ← ExceptT.lift ((Tracking.tasks entries).run.hold (onTracking service))
  settle .chain r

/-- Connects to the main chain, if there are addresses of it, and gives the time between checks. -/
def connectMain (s : Settings) : Building (Option Duration) :=
  match s.mainEndpoints, s.mainChain with
  | none, _ => pure none
  | some _, some rpc => some <$> connectPool rpc
  | some _, none => ExceptT.mk (pure (.error (.settings (.missing "mainnet.rpc"))))

/-- A job with its sources and the times between checks. -/
abbrev Prepared := Job × Sources × List Duration

/-- Prepares the scrape of the storage network's chain. -/
def prepareFsChain (s : Settings) : Building Prepared := do
  let notaryEnabled ← must Native.notaryEnabled
  let service ← nameService
  let netmap ← contract service "netmap" s.contracts.netmap
  let containers ← contract service "container" s.contracts.container
  let balance ← contract service "balance" s.contracts.balance
  let proxy ← proxy service s.contracts.proxy
  connectEvery s.rpc
  let main ← connectMain s
  let geo ← locations s.locodePath
  let tokens ← tokens service s.tokens
  let job : FsChainJob := { balance, proxy, comparesAlphabets := main.isSome, geo, tokens }
  let sources : Sources :=
    { netmap := ⟨netmap, notaryEnabled⟩, containers, alphabet := Role.committeeAlphabet }
  pure (.fsChain job, sources, s.metricsInterval :: main.toList)

/-- The contract of the storage network on the main chain, unless its setting is empty. -/
def mainContract (setting : Option String) : Building (Option ScriptHash) :=
  match setting.filter fun s => !s.isEmpty with
  | some text => some <$> settle (.contract "neofs") ((ScriptHash.parse text).mapError .hash)
  | none => pure none

/-- Prepares the scrape of the main chain. -/
def prepareMainChain (s : Settings) : Building Prepared := do
  let neofs ← mainContract s.contracts.neofs
  let tokens ← tokens .absent s.tokens
  let sources : Sources :=
    { netmap := ⟨.zero, false⟩, containers := .zero, alphabet := Role.mainAlphabet }
  pure (.mainChain { neofs, tokens }, sources, [])

/-- Starts up. -/
def build (s : Settings) : Building Plan := do
  let metrics := (Metrics.empty s.mode).setVersion Routes.version
  let period ← connectPool s.rpc
  let (job, sources, periods) ← if s.fsChain then prepareFsChain s else prepareMainChain s
  let listen ← ExceptT.mk (pure (s.listenAddress.mapError StartupFault.settings))
  pure
    { job, sources, metrics, interval := s.metricsInterval, listen,
      recheckPeriods := period :: periods }

end Startup

end ChainGauge
