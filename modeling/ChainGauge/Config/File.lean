import ChainGauge.Config.Overrides
import ChainGauge.Yaml.Reader

/-!
# The file of settings

The settings stand in a document of nested records. Names that are not known do not count, and
everything may be left out. `Settings.load` reads the file, if there is one, applies the overrides
and checks the result.
-/

namespace ChainGauge.Settings

open Yaml Yaml.Reader

/-- The duration that a scalar stands for. -/
def durationOf? : Yaml.Node → Option Duration
  | .scalar s style tag =>
    let kind := tag.bind fun t => ["bool", "float", "null", "int"].find? (kindTag · = t)
    let own := tag.any (·.startsWith "!")
    let number := (natural? s).map Duration.ofSeconds
    if own || (kind.isSome && kind ≠ some "int") then none
    else if kind = some "int" then number
    else
      -- A plain whole number counts as seconds; quoted digits are read as text, with the same outcome.
      let written := if style = .plain ∧ tag = none then number else none
      written.or (Duration.parse s).toOption
  | _ => none

/-- Reads a duration, as text or as a plain number of seconds. -/
def readDuration : Yaml.Reader Duration := fun n => do
  match durationOf? (← follow n) with
  | some d => pure d
  | none => failure

/-- Reads how the nodes of a chain are reached. -/
def readRpc : Yaml.Reader RpcSettings := fun n => do
  let es ← record ["endpoint", "dial_timeout", "health_recheck_interval"] n
  let usual := RpcSettings.usual
  let endpoints ← field es "endpoint" (list text) usual.endpoints
  let dialTimeout ← field es "dial_timeout" readDuration usual.dialTimeout
  let recheckInterval ← field es "health_recheck_interval" readDuration usual.recheckInterval
  pure { endpoints, dialTimeout, recheckInterval }

/-- Reads the chain to watch. -/
def readChain : Yaml.Reader (Bool × RpcSettings) := fun n => do
  let es ← record ["fschain", "rpc"] n
  let fsChain ← field es "fschain" flag false
  let rpc ← field es "rpc" readRpc .usual
  pure (fsChain, rpc)

/-- Reads the part of a document that holds nothing but one field. -/
def readOnly {α : Type} (name : String) (read : Yaml.Reader α) (default : α) : Yaml.Reader α :=
  fun n => do
    let es ← record [name] n
    field es name read default

/-- Reads the given contracts. -/
def readContracts : Yaml.Reader ContractSettings := fun n => do
  let names := ["neofs", "netmap", "container", "balance", "proxy"]
  let es ← record names n
  let hashes ← names.mapM fun name => field es name (Reader.optional text) none
  match hashes with
  | [neofs, netmap, container, balance, proxy] =>
    pure { neofs, netmap, container, balance, proxy }
  | _ => failure

/-- Reads where and how often the metrics are served. -/
def readMetrics : Yaml.Reader (String × Duration) := fun n => do
  let es ← record ["endpoint", "interval"] n
  let endpoint ← field es "endpoint" text usual.metricsEndpoint
  let interval ← field es "interval" readDuration usual.metricsInterval
  pure (endpoint, interval)

/-- Reads a token to track. -/
def readToken : Yaml.Reader TrackedEntry := fun n => do
  let es ← record ["contract", "label", "totalSupply", "balanceOf"] n
  let contract ←
    match es.lookup "contract" with
    | some c => text c
    | none => failure
  let label ← field es "label" text ""
  let total ← field es "totalSupply" flag false
  let accounts ← field es "balanceOf" (list text) []
  pure { contract, label, total, accounts }

/-- Reads settings. -/
def read : Yaml.Reader Settings := fun n => do
  let es ← record ["chain", "mainnet", "contracts", "metrics", "logger", "locode", "nep17"] n
  let (fsChain, rpc) ← field es "chain" readChain (usual.fsChain, usual.rpc)
  let mainChain ← field es "mainnet" (Reader.optional (readOnly "rpc" readRpc .usual)) none
  let contracts ← field es "contracts" readContracts usual.contracts
  let (metricsEndpoint, metricsInterval) ←
    field es "metrics" readMetrics (usual.metricsEndpoint, usual.metricsInterval)
  let logLevel ← field es "logger" (readOnly "level" text usual.logLevel) usual.logLevel
  let locodePath ←
    field es "locode" (readOnly "db" (readOnly "path" (Reader.optional text) none) none) none
  let tokens ← field es "nep17" (list readToken) []
  pure
    { fsChain, rpc, mainChain, contracts, metricsEndpoint, metricsInterval, logLevel, locodePath,
      tokens }

/-- Reads the text of a file. -/
def ofText (s : String) : Except SettingsFault Settings :=
  match (Document.ofText? s).bind (whole? read) with
  | some settings => .ok settings
  | none => .error .format

/-- A file that may be missing. -/
structure File where
  path : String
  content : Option String

/-- Reads a file. -/
def ofFile (file : File) : Except SettingsFault Settings :=
  match file.content with
  | some s => ofText s
  | none => .error (.noFile file.path)

/-- The settings of a file, if one is named, with their overrides. -/
def load (file : Option File) (lookup : String → Option String) : Except SettingsFault Settings := do
  let s ←
    match file with
    | some f => ofFile f
    | none => .ok usual
  match s.applyOverrides lookup with
  | (_, some e) => .error e
  | (s, none) =>
    s.check
    .ok s

end ChainGauge.Settings
