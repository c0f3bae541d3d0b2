import ChainGauge.Config.Settings
import ChainGauge.Proofs.Except
import ChainGauge.Rpc.Endpoint

/-!
# What the check of settings asks for

The settings pass exactly if there is an endpoint of the watched chain, every endpoint of either chain
is the URL of a node, the time between two scrapes is not zero, and the metrics have an address
(`Settings.check_eq_ok_iff`). How long a node may take and how long a sign of life counts are not looked
at (`Settings.check_congr`).
-/

namespace ChainGauge.Settings

variable {s : Settings} {text : String}

/-- The main chain, if there are endpoints of it. -/
def mainPool (s : Settings) : Option RpcSettings :=
  s.mainChain.filter fun rpc => !rpc.endpoints.isEmpty

/-- All endpoints, those of the watched chain first. -/
def allEndpoints (s : Settings) : List String :=
  s.rpc.endpoints ++ (s.mainChain.map (·.endpoints)).getD []

/-- The endpoints of the main chain are those of its pool. -/
theorem mainEndpoints_eq : s.mainEndpoints = s.mainPool.map (·.endpoints) := by
  rw [mainEndpoints, mainPool, Option.filter_map]
  rfl

/-- A main chain without endpoints has none to check. -/
private theorem getD_mainEndpoints :
    s.mainEndpoints.getD [] = (s.mainChain.map (·.endpoints)).getD [] := by
  rw [mainEndpoints]
  generalize s.mainChain.map (·.endpoints) = texts
  rcases texts with _ | _ | ⟨text, rest⟩ <;> rfl

/-- There is a pool of the main chain only if it has endpoints. -/
theorem endpoints_ne_nil_of_mainPool {rpc : RpcSettings} (h : s.mainPool = some rpc) :
    rpc.endpoints ≠ [] := by
  simpa using (Option.filter_eq_some_iff.mp h).2

/-- An endpoint passes exactly if it is a URL of one of the two schemes that nodes answer on. -/
private theorem checkEndpoint_eq_ok_iff : checkEndpoint text = .ok () ↔
    ∃ url, Url.parse text = .ok url ∧ url.scheme ∈ ["http", "https"] := by
  unfold checkEndpoint
  split
  · next hparse => simp [hparse]
  · next url hparse =>
    rw [hparse]
    split
    · next hscheme => simpa using hscheme
    · next hscheme =>
      split <;> simpa using hscheme

/-- An endpoint that passes can be dialed. -/
theorem exists_parse_of_checkEndpoint (h : checkEndpoint text = .ok ()) :
    ∃ e : Endpoint, Endpoint.parse text = .ok e := by
  obtain ⟨url, hparse, -⟩ := checkEndpoint_eq_ok_iff.mp h
  exact ⟨⟨text, url⟩, by rw [Endpoint.parse, hparse]⟩

/-- What settings must have to pass their check. -/
theorem check_eq_ok_iff : s.check = .ok () ↔
    s.rpc.endpoints ≠ [] ∧ (∀ text ∈ s.allEndpoints, checkEndpoint text = .ok ()) ∧
      0 < s.metricsInterval.nanos ∧ ∃ address, s.listenAddress = .ok address := by
  rw [allEndpoints, List.forall_mem_append, ← getD_mainEndpoints, Nat.pos_iff_ne_zero, check]
  simp only [Except.ite_throw_eq_ok_iff, Except.bind_eq_ok_iff, Except.forM_eq_ok_iff,
    List.isEmpty_iff, exists_const, ne_eq]
  constructor
  · rintro ⟨hsome, hrpc, hmain, hinterval, address, haddress, -⟩
    exact ⟨hsome, ⟨hrpc, hmain⟩, hinterval, address, haddress⟩
  · rintro ⟨hsome, ⟨hrpc, hmain⟩, hinterval, address, haddress⟩
    exact ⟨hsome, hrpc, hmain, hinterval, address, haddress, rfl⟩

/-- Only the endpoints of the two chains are checked, and no times of theirs. -/
theorem check_congr {rpc : RpcSettings} {main : Option RpcSettings}
    (hrpc : rpc.endpoints = s.rpc.endpoints)
    (hmain : main.map (·.endpoints) = s.mainChain.map (·.endpoints)) :
    ({ s with rpc := rpc, mainChain := main } : Settings).check = s.check := by
  unfold check mainEndpoints listenAddress
  simp only [hrpc, hmain]

end ChainGauge.Settings
