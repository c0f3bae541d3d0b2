import ChainGauge.Config.Settings

/-!
# Overrides

Variables of the environment override settings, one after another. A variable that is blank counts
as absent. The first one that does not fit ends the overriding; what was overridden before it stays.
-/

namespace ChainGauge.Settings

/-- A variable with what its text does to the settings. -/
structure Override where
  name : String
  apply : String → Settings → Except SettingsFault Settings

/-- What all variables start with. -/
def variableSpace : String := "NEO_EXPORTER_"

/-- The entries of a list that commas divide; blank ones do not count. -/
def splitList (text : String) : List String :=
  ((Text.splitAt ',' text.toList).map fun e => Text.trim (String.ofList e)).filter
    fun e => !e.isEmpty

/-- The boolean that a word stands for, in upper or lower case. -/
def flagOf (name text : String) : Except SettingsFault Bool :=
  let word := Text.lower (Text.trim text)
  if ["1", "true", "yes"].contains word then .ok true
  else if ["0", "false", "no"].contains word then .ok false
  else .error (.boolean name word)

/-- An override that takes the text as it is. -/
def textOverride (name : String) (set : String → Settings → Settings) : Override :=
  ⟨variableSpace ++ name, fun text s => .ok (set text s)⟩

/-- An override that reads a duration. -/
def durationOverride (name : String) (set : Duration → Settings → Settings) : Override :=
  let name := variableSpace ++ name
  ⟨name, fun text s =>
    match Duration.parse text with
    | .ok d => .ok (set d s)
    | .error e => .error (.duration name e)⟩

/-- The override that reads a boolean. -/
def flagOverride (name : String) (set : Bool → Settings → Settings) : Override :=
  let name := variableSpace ++ name
  ⟨name, fun text s => (flagOf name text).map (set · s)⟩

/-- All overrides, in their order. -/
def overrides : List Override :=
  [flagOverride "CHAIN_FSCHAIN" fun b s => { s with fsChain := b },
    textOverride "CHAIN_RPC_ENDPOINT" fun t s =>
      { s with rpc := { s.rpc with endpoints := splitList t } },
    durationOverride "CHAIN_RPC_DIAL_TIMEOUT" fun d s =>
      { s with rpc := { s.rpc with dialTimeout := d } },
    durationOverride "CHAIN_RPC_HEALTH_RECHECK_INTERVAL" fun d s =>
      { s with rpc := { s.rpc with recheckInterval := d } },
    textOverride "METRICS_ENDPOINT" fun t s => { s with metricsEndpoint := t },
    durationOverride "METRICS_INTERVAL" fun d s => { s with metricsInterval := d },
    textOverride "LOGGER_LEVEL" fun t s => { s with logLevel := t },
    textOverride "LOCODE_DB_PATH" fun t s => { s with locodePath := some t },
    textOverride "CONTRACTS_NEOFS" fun t s =>
      { s with contracts := { s.contracts with neofs := some t } }]

/-- The text of a variable that is not blank. -/
def present? (lookup : String → Option String) (name : String) : Option String :=
  (lookup name).filter fun v => !(Text.trim v).isEmpty

/-- Applies overrides in turn, and tells which one did not fit. -/
def applyEach (lookup : String → Option String) (s : Settings) :
    List Override → Settings × Option SettingsFault
  | [] => (s, none)
  | o :: rest =>
    match present? lookup o.name with
    | none => applyEach lookup s rest
    | some text =>
      match o.apply text s with
      | .ok s => applyEach lookup s rest
      | .error e => (s, some e)

/-- Applies all overrides. -/
def applyOverrides (lookup : String → Option String) (s : Settings) :
    Settings × Option SettingsFault :=
  applyEach lookup s overrides

end ChainGauge.Settings
