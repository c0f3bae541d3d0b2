import ChainGauge.Proofs.Config.Check
import ChainGauge.Proofs.Rpc.Blame
import ChainGauge.Proofs.Startup.Contracts

/-!
# Starting up with checked settings

Settings that pass their check may still fail to start, but the settings are not to blame then. Each
guard of the check answers for a step of starting up: there is an address to connect to, the addresses
are URLs, a main chain with endpoints has its settings, there is a time between scrapes, and an address
for the metrics. Nodes bring about no failure that blames the settings, whatever they deliver, so none
of the steps comes to one (`Startup.Spares`). Times that the settings leave out are replaced
(`Startup.recheckPeriod_pos`).

## Key results

- `Startup.connectMain_eq`: a main chain with endpoints never lacks its settings
- `Startup.spares_prepare`: the steps of the two chains
- `Startup.build_of_check`: all of this for every start
-/

namespace ChainGauge

/-- Whether the settings are to blame, for an endpoint or for what they lack or hold otherwise. -/
def StartupFault.BlamesSettings : StartupFault → Prop
  | .settings _ => True
  | .chain cause | .contract _ cause => cause.BlamesAddress

namespace Startup

/-- What can come of a question: what a node brings, nothing where no node of the watched chain can be
reached, and anything in a file. -/
def Ask.Brings : (ask : Ask) → ask.Answer → Prop
  | .version e _, r => e.Brings .version r
  | .query q, r => r = .error .noHealthyClient ∨ ∃ e : Endpoint, e.Brings q r
  | .file _, _ => True

variable {α β : Type} {P : α → Prop} {R : β → Prop} {s : Settings}

/-- Whatever is brought, something holds of what is built, or the settings are not to blame. -/
def Spares (P : α → Prop) (b : Building α) : Prop :=
  Dialogue.Yields Ask.Brings (fun f => ¬ f.BlamesSettings) P b

/-- Steps in turn spare the settings if all of them do. -/
theorem Spares.bind {b : Building α} {f : α → Building β} (h : Spares P b)
    (hf : ∀ x, P x → Spares R (f x)) : Spares R (b >>= f) :=
  Dialogue.Yields.bind h hf

/-- What a step gives may be mapped. -/
theorem Spares.map {b : Building α} {f : α → β} (h : Spares P b) (hf : ∀ x, P x → R (f x)) :
    Spares R (f <$> b) :=
  Dialogue.Yields.map h hf

/-- A value blames nothing. -/
theorem spares_pure {x : α} (h : P x) : Spares P (pure x : Building α) :=
  h

private theorem spares_lift {d : Dialogue Ask Ask.Answer α} (h : d.Gives Ask.Brings P) :
    Spares P (ExceptT.lift d : Building α) :=
  Dialogue.yields_lift h

/-- A failure of chain access blames the settings as it blames an endpoint, also for a contract. -/
private theorem spares_settle {r : Except ChainError α} {fault : ChainError → StartupFault}
    (h : Acquits P r) (hfault : ∀ e, (fault e).BlamesSettings → e.BlamesAddress) :
    Spares P (settle fault r) :=
  Meets.mapError h fun e he hf => he (hfault e hf)

/-! ## Dialogues with the watched chain -/

/-- A dialogue with a chain that blames no endpoint blames none with any node. -/
private theorem gives_converse {c : Chain α} (h : c.Spares) :
    (converse c).Gives Ask.Brings (Acquits fun _ => True) := by
  refine h.hold fun q x hx => ?_
  rcases hx with rfl | ⟨e, he⟩
  · exact not_false
  · exact Endpoint.acquits_of_brings he

/-- What must come of such a dialogue blames no settings either. -/
private theorem spares_must {c : Chain α} (h : c.Spares) : Spares (fun _ => True) (must c) :=
  (gives_converse h).andThen fun _ hr => spares_settle hr fun _ he => he

/-- Finding the name service does not. -/
private theorem spares_nameService : Spares (fun _ => True) nameService := by
  refine (spares_lift (gives_converse Names.spares_find)).bind fun r _ => ?_
  cases r with
  | ok hash => exact spares_pure trivial
  | error e => exact spares_pure trivial

/-- Nor does finding a contract. -/
private theorem spares_contract (service : Names.Service) (name : String)
    (setting : Option String) :
    Spares (fun _ => True) (contract service name setting) := by
  unfold contract
  split
  · exact spares_settle (acquits_mapError _ fun _ => not_false) fun _ he => he
  · exact (spares_lift (gives_converse (Names.spares_resolve _ _))).bind fun r hr =>
      spares_settle hr fun _ he => he

/-- Nor the proxy contract. -/
private theorem spares_proxy (service : Names.Service) (setting : Option String) :
    Spares (fun _ => True) (proxy service setting) := by
  unfold proxy
  split
  · exact (spares_contract _ _ _).map fun _ _ => trivial
  · exact (spares_lift (gives_converse (Names.spares_resolve _ _))).bind fun r _ =>
      spares_pure trivial

/-- Nor the contract of the main chain. -/
private theorem spares_mainContract (setting : Option String) :
    Spares (fun _ => True) (mainContract setting) := by
  unfold mainContract
  split
  · refine Spares.map (P := fun _ => True) ?_ fun _ _ => trivial
    exact spares_settle (acquits_mapError _ fun _ => not_false) fun _ he => he
  · exact spares_pure trivial

/-! ## What to track -/

/-- No endpoint is to blame for the answer to a question about what to track. -/
def Spared : (q : Tracking.Lookup) → q.Reply → Prop
  | .resolve _, r => Acquits (fun _ => True) r
  | .symbol _, r => Acquits (fun _ => True) r

/-- What comes of a lookup for tracked tokens is spared. -/
private theorem gives_onTracking (service : Names.Service) (q : Tracking.Lookup) :
    (onTracking service q).Gives Ask.Brings (Spared q) := by
  cases q with
  | resolve name => exact gives_converse (Names.spares_resolve service name)
  | symbol token => exact gives_converse (Token.spares_symbol token)

open Tracking in
/-- So is what fails an entry. -/
private theorem yields_task (entry : TrackedEntry) : Dialogue.Yields Spared
    (fun e => ¬ e.BlamesAddress) (fun _ => True) (task entry) := by
  refine Dialogue.Yields.bind (P := fun _ => True) ?_ fun hash _ =>
    Dialogue.Yields.bind (P := fun _ => True) ?_ fun symbol _ => Dialogue.yields_pure trivial
  · unfold contractOf
    split
    · exact Dialogue.yields_pure trivial
    · intro r _
      cases r with
      | ok hash => exact trivial
      -- The text is read as a hash then, and its fault is one of the entry.
      | error e => exact acquits_mapError _ fun _ => not_false
  · exact fun r hr => Meets.mapError hr fun _ he => he

open Tracking in
/-- No entry blames an endpoint. -/
private theorem yields_tasks (entries : List TrackedEntry) : Dialogue.Yields Spared
    (fun e => ¬ e.BlamesAddress) (fun _ => True) (tasks entries) := by
  induction entries with
  | nil => exact Dialogue.yields_pure trivial
  | cons entry rest ih =>
    exact (yields_task entry).bind fun _ _ => ih.bind fun _ _ => Dialogue.yields_pure trivial

/-- Tracked tokens blame no settings. -/
private theorem spares_tokens (service : Names.Service) (entries : List TrackedEntry) :
    Spares (fun _ => True) (tokens service entries) :=
  (spares_lift (Dialogue.Gives.hold (yields_tasks entries) (gives_onTracking service))).bind
    fun _ hr => spares_settle hr fun _ he => he

/-! ## Connections -/

/-- Nor do endpoints, if there are any. -/
private theorem spares_nonempty {endpoints : List String} (h : endpoints ≠ []) :
    Spares (fun _ => True) (nonempty endpoints) := by
  unfold nonempty
  rw [if_neg (by simpa using h)]
  exact spares_pure trivial

/-- Dialing an address that can be read blames no endpoint. -/
private theorem gives_dial {text : String} (timeout : Duration)
    (h : ∃ e : Endpoint, Endpoint.parse text = .ok e) :
    (dial timeout text).Gives Ask.Brings (Acquits fun _ => True) := by
  obtain ⟨e, he⟩ := h
  unfold dial
  rw [he]
  intro r hr
  have hspared : Acquits (fun _ => True) r :=
    Endpoint.acquits_of_brings (q := .version) hr
  exact hspared.map fun _ _ => trivial

/-- Where no address answers, it is not told why. -/
private theorem gives_dialFirst (timeout : Duration) (texts : List String) :
    (dialFirst timeout texts).Gives Ask.Brings (Acquits fun _ => True) := by
  induction texts with
  | nil => exact not_false
  | cons text rest ih =>
    -- A failure is left behind with its address, so it does not matter which one it is.
    refine Dialogue.Gives.andThen (Dialogue.gives_true _) fun r _ => ?_
    cases r with
    | ok x => exact trivial
    | error e => exact ih

/-- Nor does dialing several. -/
private theorem gives_dialEvery (timeout : Duration) {texts : List String}
    (h : ∀ text ∈ texts, ∃ e : Endpoint, Endpoint.parse text = .ok e) :
    (dialEvery timeout texts).Gives Ask.Brings (Acquits fun _ => True) := by
  induction texts with
  | nil => exact trivial
  | cons text rest ih =>
    obtain ⟨hfirst, hrest⟩ := List.forall_mem_cons.mp h
    refine (gives_dial timeout hfirst).andThen fun r hr => (ih hrest).andThen fun rs hrs => ?_
    -- The first failure counts; under the name of its address it blames what it blamed before.
    cases r with
    | ok x => exact hrs
    | error e => exact hr

/-- Connecting a pool with an endpoint gives its period. -/
private theorem spares_connectPool {rpc : RpcSettings} (h : rpc.endpoints ≠ []) :
    Spares (· = recheckPeriod rpc) (connectPool rpc) :=
  (spares_nonempty h).bind fun _ _ => (spares_lift (gives_dialFirst _ _)).bind fun _ hr =>
    Spares.bind (spares_settle hr fun _ he => he) fun _ _ => spares_pure rfl

/-- Connecting every endpoint blames no settings. -/
private theorem spares_connectEvery {rpc : RpcSettings} (h : rpc.endpoints ≠ [])
    (hparse : ∀ text ∈ rpc.endpoints, ∃ e : Endpoint, Endpoint.parse text = .ok e) :
    Spares (fun _ => True) (connectEvery rpc) :=
  (spares_nonempty h).bind fun _ _ => (spares_lift (gives_dialEvery _ hparse)).bind fun _ hr =>
    spares_settle hr fun _ he => he

/-- There is a main chain wherever it has endpoints, so its settings are never missed. -/
theorem connectMain_eq (s : Settings) : connectMain s =
    match s.mainPool with
    | some rpc => some <$> connectPool rpc
    | none => pure none := by
  rw [connectMain, Settings.mainEndpoints_eq]
  cases hpool : s.mainPool with
  | none => rfl
  | some rpc =>
    rw [(Option.filter_eq_some_iff.mp hpool).1]
    rfl

/-- Connecting the main chain gives its period, if there is a pool of it. -/
private theorem spares_connectMain (s : Settings) :
    Spares (· = s.mainPool.map recheckPeriod) (connectMain s) := by
  rw [connectMain_eq]
  cases hpool : s.mainPool with
  | none => exact spares_pure rfl
  | some rpc =>
    refine (spares_connectPool (Settings.endpoints_ne_nil_of_mainPool hpool)).map ?_
    rintro _ rfl
    rfl

/-! ## Plans -/

/-- Reading the table of locations blames no settings. -/
private theorem spares_locations (path : Option String) :
    Spares (fun _ => True) (locations path) := by
  cases path with
  | none => exact spares_pure trivial
  | some path =>
    refine (spares_lift (Dialogue.gives_true _)).bind fun content _ => ?_
    -- A file that is missing or cannot be read is no fault of the settings.
    cases content with
    | none => exact spares_settle (r := .error _) not_false fun _ he => he
    | some text =>
      dsimp only
      split
      · exact spares_settle (r := .error _) not_false fun _ he => he
      · exact spares_pure trivial

/-- The times between the checks that starting up begins, one for each group of connections. -/
def periods (s : Settings) : List Duration :=
  recheckPeriod s.rpc ::
    if s.fsChain then s.metricsInterval :: (s.mainPool.map recheckPeriod).toList else []

/-- There is time between two checks of connections. -/
theorem recheckPeriod_pos (rpc : RpcSettings) : 0 < (recheckPeriod rpc).nanos := by
  unfold recheckPeriod
  split
  · decide
  · next h => exact Nat.pos_of_ne_zero h

/-- So there is between any two steps that come again. -/
private theorem pos_of_mem_periods (h : 0 < s.metricsInterval.nanos) {p : Duration}
    (hp : p ∈ periods s) :
    0 < p.nanos := by
  rcases List.mem_cons.mp hp with rfl | hp
  · exact recheckPeriod_pos _
  · split at hp
    · rcases List.mem_cons.mp hp with rfl | hp
      · exact h
      · obtain ⟨rpc, -, rfl⟩ := Option.map_eq_some_iff.mp (Option.mem_toList.mp hp)
        exact recheckPeriod_pos rpc
    · cases hp

/-- Preparing the job gives the periods of its connections. -/
theorem spares_prepare (hsome : s.rpc.endpoints ≠ [])
    (hparse : ∀ text ∈ s.rpc.endpoints, ∃ e : Endpoint, Endpoint.parse text = .ok e) :
    Spares (fun p => recheckPeriod s.rpc :: p.2.2 = periods s) (prepare s) := by
  -- Step by step, as the mode prepares them; only endpoints and names could blame the settings.
  cases hmode : s.fsChain with
  | true =>
    rw [prepare_fsChain hmode, prepareFsChain]
    refine (spares_must Native.spares_notaryEnabled).bind fun notaryEnabled _ => ?_
    refine spares_nameService.bind fun service _ => ?_
    refine (spares_contract _ _ _).bind fun netmap _ => ?_
    refine (spares_contract _ _ _).bind fun containers _ => ?_
    refine (spares_contract _ _ _).bind fun balance _ => ?_
    refine (spares_proxy _ _).bind fun proxy _ => ?_
    refine (spares_connectEvery hsome hparse).bind fun _ _ => ?_
    refine (spares_connectMain s).bind fun main hmain => ?_
    refine (spares_locations _).bind fun geo _ => ?_
    refine (spares_tokens _ _).bind fun tokens _ => spares_pure ?_
    rw [periods, hmode, hmain]
    rfl
  | false =>
    rw [prepare_mainChain hmode, prepareMainChain]
    refine (spares_mainContract _).bind fun neofs _ => ?_
    refine (spares_tokens _ _).bind fun tokens _ => spares_pure ?_
    rw [periods, hmode]
    rfl

/-- Where the settings pass their check, they are not to blame, and what is built checks its connections
at the times that the settings give. -/
private theorem spares_build (h : s.check = .ok ()) :
    Spares (fun plan => plan.recheckPeriods = periods s ∧ plan.interval = s.metricsInterval ∧
      s.listenAddress = .ok plan.listen) (build s) := by
  obtain ⟨hsome, hcheck, hinterval, address, haddress⟩ := Settings.check_eq_ok_iff.mp h
  rw [build_eq]
  -- What has been prepared is passed along, so that the plan can be compared with the settings.
  refine (spares_connectPool hsome).bind fun period hperiod => ?_
  refine (spares_prepare hsome ?_).bind fun p hp => ?_
  · exact fun text htext =>
      Settings.exists_parse_of_checkEndpoint (hcheck text (List.mem_append_left _ htext))
  rw [haddress]
  refine Spares.bind (P := (· = address)) (spares_pure rfl) fun listen hlisten => spares_pure ?_
  rw [hperiod, hlisten]
  exact ⟨hp, rfl, rfl⟩

/-- For settings that pass their check, on either chain. Every endpoint can be dialed, at the start and
at any later check. No time between checks is zero, also of checks that a start has begun before it
fails. Whatever nodes deliver and files hold, starting up comes to a plan with these times and with the
address of the settings, or to a fault that does not blame the settings. The settings pass with any
times for answers and between checks. -/
theorem build_of_check (s : Settings) (h : s.check = .ok ()) :
    (∀ text ∈ s.allEndpoints, ∃ e : Endpoint, Endpoint.parse text = .ok e) ∧
    (∀ p ∈ periods s, 0 < p.nanos) ∧
    (∀ answers : Dialogue.Replies Ask Ask.Answer, (∀ n (ask : Ask), ask.Brings (answers n ask)) →
      match (build s).run.result answers with
      | .ok plan => plan.recheckPeriods = periods s ∧ plan.interval = s.metricsInterval ∧
          s.listenAddress = .ok plan.listen
      | .error fault => ¬ fault.BlamesSettings) ∧
    ∀ (rpc : RpcSettings) (main : Option RpcSettings), rpc.endpoints = s.rpc.endpoints →
      main.map (·.endpoints) = s.mainChain.map (·.endpoints) →
      ({ s with rpc := rpc, mainChain := main } : Settings).check = .ok () := by
  obtain ⟨-, hcheck, hinterval, -⟩ := Settings.check_eq_ok_iff.mp h
  refine ⟨fun text htext => Settings.exists_parse_of_checkEndpoint (hcheck text htext),
    fun p hp => pos_of_mem_periods hinterval hp, fun answers hanswers => ?_,
    fun rpc main hrpc hmain => (Settings.check_congr hrpc hmain).trans h⟩
  -- The dialogue spares the settings for every answer that the outside can give.
  have hbuild := Dialogue.Gives.result (spares_build h) hanswers
  split
  · next plan hplan =>
    rw [hplan] at hbuild
    exact hbuild
  · next fault hfault =>
    rw [hfault] at hbuild
    exact hbuild

/-! ## Settings without patience -/

/-- Settings of both chains that leave no time for an answer and none between checks. -/
def impatient : Settings :=
  let hash := "0x0707070707070707070707070707070707070707"
  { Settings.usual with
    fsChain := true
    rpc := ⟨["http://fs:1"], ⟨0⟩, ⟨0⟩⟩
    mainChain := some ⟨["http://main:1"], ⟨0⟩, ⟨0⟩⟩
    contracts := ⟨none, some hash, some hash, some hash, some hash⟩ }

/-- What nodes deliver that leave their version blank and list no native contracts. -/
def terse : Deliveries := fun _ r =>
  if r.method = "getversion" then
    .answered 200 "\x7b\x22result\x22:\x7b\x7d\x7d"
  else if r.method = "getnativecontracts" then .answered 200 "\x7b\x22result\x22:[]\x7d"
  else .failed

/-- What comes of questions where nodes deliver that. -/
def terseAnswer : (ask : Ask) → ask.Answer
  | .version e _ => ((e.answer .version).result 1 terse).1
  | .query q => ((Endpoint.nearby.answer q).result 1 terse).1
  | .file _ => none

/-- A node can answer tersely. -/
private theorem brings_terseAnswer (ask : Ask) : ask.Brings (terseAnswer ask) := by
  cases ask with
  | version e timeout => exact ⟨1, terse, rfl⟩
  | query q => exact .inr ⟨Endpoint.nearby, 1, terse, rfl⟩
  | file path => exact trivial

/-- Settings that leave no time pass, start, and check their connections in the usual times. -/
theorem build_impatient : impatient.check = .ok () ∧
    ∃ plan, (build impatient).run.result (fun _ => terseAnswer) = .ok plan ∧
      plan.recheckPeriods = [.ofSeconds 5, .ofSeconds 15, .ofSeconds 5] := by
  have hcheck : impatient.check = .ok () := by decide +kernel
  have hok : ((build impatient).run.result fun _ => terseAnswer).isOk := by decide +kernel
  have hbuild := (build_of_check impatient hcheck).2.2.1 (fun _ => terseAnswer)
    fun _ ask => brings_terseAnswer ask
  refine ⟨hcheck, ?_⟩
  cases hplan : (build impatient).run.result fun _ => terseAnswer with
  | error fault =>
    rw [hplan] at hok
    cases hok
  | ok plan =>
    rw [hplan] at hbuild
    exact ⟨plan, rfl, hbuild.1.trans (by decide +kernel)⟩

end Startup

end ChainGauge
