import ChainGauge.Proofs.Scrape.Round

/-!
# The families of the network map

The nine families of the network map are published together, in the iterations in which both the
map and its candidates were read, and keep their samples otherwise. So after any iterations they
describe one and the same of them, the latest such one. An entry can be missing: a family tells its
samples apart by a hash of the label values, one behind the other, and where two candidates have the
same text that way only the first one is shown.

## Key results

- `Round.about_netmap`: the changes of the families are told by what was read
- `Metrics.netmap_of_latest`: what the families show after any iterations
- `Metrics.candidate_run_together`: a candidate that carries an epoch and is not shown
-/

namespace ChainGauge

open FsChainJob (netmapFamilies)

/-! ## What an iteration read -/

/-- What an iteration read of the network map, with what it looked up for each of the nodes, and the
orders in which its hash tables came out. -/
structure NetmapReading where
  netmap : Netmap
  candidates : List Candidate
  reports : List FsChainJob.NodeReport
  listing : Listing
  keys_reports : reports.map (·.key) = netmap.nodes.map (·.key.toHex)

/-- What an iteration read of the network map with its first questions, if it read both the map and its
candidates. -/
def Round.netmap? (r : Round) : Option NetmapReading :=
  match r.job with
  | .mainChain _ => none
  | .fsChain job => do
    let nm ← r.answers 0 .netmap
    let candidates ← r.answers 1 .candidates
    let reports := job.inspected nm.nodes (r.answers.drop 2)
    some ⟨nm, candidates, reports, r.listing, job.keys_inspected nm.nodes _⟩

/-- The changes that publish what was read. -/
def NetmapReading.updates (x : NetmapReading) : List Update :=
  FsChainJob.netmapUpdates x.listing x.netmap x.candidates x.reports

/-! ## The changes of one iteration -/

/-- What an iteration makes of the families of the network map is told by what it read of it. -/
theorem Round.about_netmap (r : Round) {f : Family} (hf : f ∈ netmapFamilies) :
    Update.about f r.updates = r.netmap?.elim [] fun x => Update.about f x.updates := by
  obtain ⟨job | job, a, listing⟩ := r
  · have hstage : (stages ⟨.fsChain job, a, listing⟩)[0]? = some (job.netmapStage listing) := rfl
    rw [about_stage _ hstage hf, netmap?]
    simp only [FsChainJob.netmapStage, FsChainJob.netmapStep, Scrape.updates_ask,
      Scrape.updates_whenSome, FsChainJob.updates_publishNetmap, Update.about_elim]
    -- Nothing stands in front of the network map, so its questions are the first ones.
    have hbehind : behind ⟨.fsChain job, a, listing⟩ 0 = a := rfl
    rw [hbehind]
    cases a 0 .netmap with
    | none => rfl
    | some nm =>
      show Option.elim (a 1 .candidates) [] _ = _
      cases hcandidates : a 1 .candidates with
      | none => rfl
      | some candidates => rfl
  · have hother : f ∉ MainChainJob.families := by
      revert f
      decide
    exact about_eq_nil_of_mainChain job a listing hother

/-! ## After several iterations -/

/-- Nothing of an earlier reading is left. -/
private theorem NetmapReading.refill_last (x y : NetmapReading) {f : Family}
    (hf : f ∈ netmapFamilies)
    (samples : List Sample) :
    Metrics.refill (Update.about f x.updates)
        (Metrics.refill (Update.about f y.updates) samples) =
      Metrics.refill (Update.about f x.updates) samples := by
  obtain ⟨hepoch, hnew, hdropped, htotal, hcapacity, hplaces, hbalance, hdeposit, hcandidate⟩ :=
    FsChainJob.about_netmapUpdates x.listing x.netmap x.candidates x.reports
  obtain ⟨hepoch', hnew', hdropped', htotal', -⟩ :=
    FsChainJob.about_netmapUpdates y.listing y.netmap y.candidates y.reports
  simp only [netmapFamilies, List.mem_cons, List.not_mem_nil, or_false] at hf
  simp only [updates]
  -- A number is set again; all other families begin with a reset.
  rcases hf with rfl | rfl | rfl | rfl | rfl | rfl | rfl | rfl | rfl
  · rw [hepoch, hepoch']
    exact Metrics.put_put ..
  · rw [hnew, hnew']
    exact Metrics.put_put ..
  · rw [hdropped, hdropped']
    exact Metrics.put_put ..
  · rw [hplaces, Sample.refill_replacing, Sample.refill_replacing]
  · rw [hcapacity, Sample.refill_replacing, Sample.refill_replacing]
  · rw [htotal, htotal']
    exact Metrics.put_put ..
  · rw [hbalance, Sample.refill_replacing, Sample.refill_replacing]
  · rw [hdeposit, Sample.refill_replacing, Sample.refill_replacing]
  · rw [hcandidate, Sample.refill_replacing, Sample.refill_replacing]

namespace Metrics

/-- What the families of the network map show of a reading: its numbers, and the entities that it
named or that were looked up with success. -/
structure ShowsNetmap (m : Metrics) (x : NetmapReading) : Prop where
  epoch : m.Tells .epoch [] x.netmap.epoch
  joined : m.Tells .netmapNew []
    (Membership.joined x.netmap.nodes (x.candidates.map (·.node))).length
  dropped : m.Tells .netmapDropped []
    (Membership.dropped x.netmap.nodes (x.candidates.map (·.node))).length
  capacity : m.Shows .nodeCapacity fun labels =>
    ∃ n ∈ x.netmap.nodes, labels = [n.address, n.key.toHex]
  balance : m.Shows .nodeBalance fun labels =>
    ∃ report ∈ x.reports, ∃ v, report.gas = some v ∧ labels = [report.key]
  deposit : m.Shows .nodeDeposit fun labels =>
    ∃ report ∈ x.reports, ∃ v, report.deposit = some v ∧ labels = [report.key]
  /-- Only candidates that carry an epoch are shown. -/
  candidate : m.Shows .candidate fun labels =>
    ∃ c ∈ x.candidates, FsChainJob.candidateLabels? c = some labels

/-- A family whose one change sets a natural number tells it. -/
private theorem tells_of_about_set {m old : Metrics} {f : Family} {us : List Update} {n : Nat}
    (h : m.samplesOf f = (old.applyAll us).samplesOf f)
    (habout : Update.about f us = [.set f [] (Binary64.nearestNat n)]) : m.Tells f [] n :=
  ⟨_, value?_of_about_set h habout, Binary64.isNearest_nearestNat n⟩

/-- Families that are as a reading was published show this reading. -/
private theorem showsNetmap_of_samples {m old : Metrics} {x : NetmapReading}
    (h : ∀ f ∈ netmapFamilies, m.samplesOf f = (old.applyAll x.updates).samplesOf f) :
    m.ShowsNetmap x := by
  obtain ⟨hepoch, hnew, hdropped, -, hcapacity, -, hbalance, hdeposit, hcandidate⟩ :=
    FsChainJob.about_netmapUpdates x.listing x.netmap x.candidates x.reports
  -- Every family of labels is refilled from its entries, and says what the entries list.
  have hshows {f : Family} {entries : List Entry} {listed : List String → Prop}
      (hf : f ∈ netmapFamilies) (habout : Update.about f x.updates = Update.replacing f entries)
      (hlisted : ∀ labels, labels ∈ entries.map (·.1) ↔ listed labels) : m.Shows f listed :=
    shows_of_samples (samplesOf_of_about_replacing (h f hf) habout) hlisted
  exact {
    epoch := tells_of_about_set (h _ (by decide)) hepoch
    joined := tells_of_about_set (h _ (by decide)) hnew
    dropped := tells_of_about_set (h _ (by decide)) hdropped
    capacity := hshows (by decide) hcapacity fun _ => FsChainJob.mem_capacityEntries
    balance := hshows (by decide) hbalance fun _ => FsChainJob.mem_reportEntries
    deposit := hshows (by decide) hdeposit fun _ => FsChainJob.mem_reportEntries
    candidate := hshows (by decide) hcandidate fun _ => FsChainJob.mem_candidateEntries }

/-- After any iterations, whatever was answered in them, the families of the network map are as the
latest iteration published them that read both the map and its candidates; without such an iteration
they are as they were. -/
theorem netmap_of_latest (m : Metrics) (rounds : List Round) :
    match latest Round.netmap? rounds with
    | none => ∀ f ∈ netmapFamilies, (m.after rounds).samplesOf f = m.samplesOf f
    | some x =>
      (∀ f ∈ netmapFamilies,
        (m.after rounds).samplesOf f = (m.applyAll x.updates).samplesOf f) ∧
      (m.after rounds).ShowsNetmap x := by
  -- What a family shows is decided by the last round that publishes it.
  have hsamples {f : Family} (hf : f ∈ netmapFamilies) :=
    samplesOf_after (fun r => r.about_netmap hf) (fun x y s => x.refill_last y hf s) m rounds
  cases hread : latest Round.netmap? rounds with
  | none =>
    intro f hf
    rw [hsamples hf, hread]
    rfl
  | some x =>
    have hlatest : ∀ f ∈ netmapFamilies,
        (m.after rounds).samplesOf f = (m.applyAll x.updates).samplesOf f := by
      intro f hf
      rw [hsamples hf, hread, samplesOf_applyAll]
      rfl
    exact ⟨hlatest, showsNetmap_of_samples hlatest⟩

end Metrics

/-! ## Candidates that run together -/

/-- Two candidates whose hosts and epochs run together to the same text. -/
def runTogether : List Candidate :=
  let key : PublicKey := ⟨[0x03, 0x6b, 0x17, 0xd1, 0xf2, 0xe1, 0x2c, 0x42, 0x47, 0xf8, 0xbc, 0xe6,
    0xe5, 0x63, 0xa4, 0x40, 0xf2, 0x77, 0x03, 0x7d, 0x81, 0x2d, 0xeb, 0x33, 0xa0, 0xf4, 0xa1,
    0x39, 0x45, 0xd8, 0x98, 0xc2, 0x96], rfl⟩
  let other : PublicKey := ⟨[0x03, 0x7c, 0xf2, 0x7b, 0x18, 0x8d, 0x03, 0x4f, 0x7e, 0x8a, 0x52,
    0x38, 0x03, 0x04, 0xb5, 0x1a, 0xc3, 0xc0, 0x89, 0x69, 0xe2, 0x77, 0xf2, 0x1b, 0x35, 0xa6,
    0x0b, 0x48, 0xfc, 0x47, 0x66, 0x99, 0x78], rfl⟩
  [⟨⟨Node.idOf key.bytes, "10.0.0.1", key, [], none, none⟩, some 23⟩,
    ⟨⟨Node.idOf other.bytes, "10.0.0.12", other, [], none, none⟩, some 3⟩]

/-- An iteration that hears of them, and of nothing else. -/
def runTogetherRound : Round where
  job := .fsChain ⟨.gas, none, false, none, []⟩
  answers := .always fun
    | .netmap => some ⟨24, []⟩
    | .candidates => some runTogether
    | s => s.unanswered

/-- Both candidates were read and carry an epoch, but only the first is shown. -/
theorem Metrics.candidate_run_together :
    runTogetherRound.netmap?.map (·.candidates) = some runTogether ∧
      runTogether.map FsChainJob.candidateLabels? =
        [some ["10.0.0.1", "23"], some ["10.0.0.12", "3"]] ∧
      ((Metrics.empty .fsChain).after [runTogetherRound]).labelsOf .candidate =
        [["10.0.0.1", "23"]] :=
  ⟨rfl, by decide, by decide +kernel⟩

end ChainGauge
