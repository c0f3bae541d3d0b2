import ChainGauge.Proofs.Scrape.Course
import ChainGauge.Proofs.Scrape.Publication

/-!
# The stages of a scrape

A scrape is a row of stages, each with families that it alone changes. So what a scrape makes of a
family is what one stage makes of it, with the answers that the stages before it leave.

## Key results

- `Job.scrape_eq_stages`, `Job.stages_apart`: both scrapes are rows of stages that are apart
- `Scrape.about_inTurn`: what a row of stages makes of a family of one of them
-/

namespace ChainGauge

open Update (replacing)

/-- A part of a scrape, with the families that it changes. -/
structure Stage where
  scrape : Scrape
  families : List Family
  writes : scrape.Writes families

/-- Two stages share no family. -/
def Stage.Apart (s t : Stage) : Prop :=
  ∀ f ∈ s.families, f ∉ t.families

/-! ## One stage among several -/

namespace Scrape

variable {stages front back : List Stage} {stage : Stage} {f : Family}

/-- A row of stages leaves a family alone that none of them has. -/
theorem about_eq_nil_of_stages (h : ∀ t ∈ stages, f ∉ t.families) (a : Answers) :
    Update.about f ((inTurn (stages.map (·.scrape))).updates a) = [] := by
  have hwrites : (inTurn (stages.map (·.scrape))).Writes (stages.flatMap (·.families)) := by
    refine writes_inTurn (List.forall_mem_map.mpr fun t ht => t.writes.mono fun g hg => ?_)
    exact List.mem_flatMap.mpr ⟨t, ht, hg⟩
  refine Update.about_eq_nil fun u hu hfamily => ?_
  obtain ⟨t, ht, hft⟩ := List.mem_flatMap.mp (hwrites.family_mem a u hu)
  exact h t ht (hfamily ▸ hft)

/-- What a row of stages makes of a family is made by the one that has it. -/
theorem about_inTurn (hfront : ∀ t ∈ front, f ∉ t.families) (hback : ∀ t ∈ back, f ∉ t.families)
    (a : Answers) :
    Update.about f ((inTurn ((front ++ stage :: back).map (·.scrape))).updates a) =
      Update.about f (stage.scrape.updates ((inTurn (front.map (·.scrape))).left a)) := by
  rw [List.map_append, List.map_cons, inTurn_append, updates_andThen, inTurn, updates_andThen,
    Update.about_append, Update.about_append, about_eq_nil_of_stages hfront,
    about_eq_nil_of_stages hback, List.nil_append, List.append_nil]

end Scrape

/-! ## What is found for keys and nodes -/

/-- Keys, each with the balance that is told for it in turn. -/
def Answers.balances (a : Answers) (keys : List PublicKey) : List (PublicKey × Option Float) :=
  a.each (fun k a => (k, a 0 (.balance .gas k.account))) 1 keys

/-- Keys, each with the deposit that is told for it in turn. -/
def Answers.deposits (a : Answers) (keys : List PublicKey) : List (PublicKey × Option Float) :=
  a.each (fun k a => (k, a 0 (.deposit k.account))) 1 keys

section Updates

variable (listing : Listing) (family : Family) (keys : List PublicKey) (a : Answers)

/-- What was looked up for keys is published off a table, with the find that came last for each. -/
private theorem updates_publishPerKey (source : ScriptHash → Source)
    (cast : (a : ScriptHash) → (source a).Answer → Option Float) :
    (publishPerKey listing family source cast keys).updates a =
      replacing family (listing.order family (Table.latest (keyEntries
        (a.each (fun k a => (k, cast k.account (a 0 (source k.account)))) 1 keys)))) := by
  have hask (k : PublicKey) (next : Option Float → Scrape) (a : Answers) :
      (Scrape.ask (source k.account) fun x => next (cast k.account x)).updates a =
        (next (cast k.account (a 0 (source k.account)))).updates (a.drop 1) := rfl
  rw [publishPerKey, Scrape.updates_askEach hask, Scrape.updates_put, Answers.zip_each]

/-- So are balances. -/
theorem updates_publishBalances :
    (publishBalances listing family keys).updates a =
      replacing family (listing.order family (Table.latest (keyEntries (a.balances keys)))) :=
  updates_publishPerKey ..

/-- So are deposits. -/
theorem updates_publishDeposits :
    (publishDeposits listing family keys).updates a =
      replacing family (listing.order family (Table.latest (keyEntries (a.deposits keys)))) :=
  updates_publishPerKey ..

end Updates

namespace FsChainJob

variable (job : FsChainJob)

/-- What is told for nodes in turn: two questions for each. -/
def inspected (nodes : List Node) (a : Answers) : List NodeReport :=
  a.each (fun n a => ⟨n.key.toHex, a 0 (.balance .gas n.key.account),
    a 1 (.deposit n.key.account), job.placeOf n⟩) 2 nodes

/-- There is a report for each node, in their order. -/
theorem keys_inspected (nodes : List Node) (a : Answers) :
    (job.inspected nodes a).map (·.key) = nodes.map (·.key.toHex) := by
  rw [inspected, Answers.map_each, Answers.each_const]

/-- The network map is published with what was looked up for its nodes. -/
theorem updates_publishNetmap (listing : Listing) (nm : Netmap)
    (candidates : List Candidate) (a : Answers) :
    (job.publishNetmap listing nm candidates).updates a =
      netmapUpdates listing nm candidates (job.inspected nm.nodes a) := by
  have hinspect (n : Node) (next : NodeReport → Scrape) (a : Answers) :
      (job.inspect n next).updates a =
        (next ⟨n.key.toHex, a 0 (.balance .gas n.key.account), a 1 (.deposit n.key.account),
          job.placeOf n⟩).updates (a.drop 2) := rfl
  rw [publishNetmap, Scrape.updates_askEach hinspect, Scrape.updates_put]
  rfl

end FsChainJob

/-! ## The parts that both scrapes share -/

section Shared

variable {listing : Listing} {family : Family} {source : ScriptHash → Source}
  {cast : (a : ScriptHash) → (source a).Answer → Option Float} {keys : List PublicKey}

/-- What was looked up for keys goes into one family. -/
theorem writes_publishPerKey : (publishPerKey listing family source cast keys).Writes [family] := by
  refine Scrape.writes_askEach (fun k next hnext x => hnext _) fun found => ?_
  rw [Scrape.writes_put]
  intro u hu
  simp [Update.family_of_mem_replacing hu]

/-- The keys of the alphabet go into theirs. -/
theorem writes_publishAlphabet (keys : List PublicKey) :
    (publishAlphabet keys).Writes [.alphabetPublicKey] := by
  rw [publishAlphabet, Scrape.writes_put]
  intro u hu
  simp [Update.family_of_mem_replacing hu]

/-- Tracked tokens go into two families. -/
theorem writes_trackTokens (tokens : List TrackedToken) :
    (trackTokens tokens).Writes [.tokenBalance, .tokenSupply] := by
  refine Scrape.writes_inTurn fun s hs => ?_
  obtain ⟨t, -, rfl⟩ := List.mem_map.mp hs
  refine Scrape.writes_andThen (Scrape.writes_inTurn fun s hs => ?_) ?_
  · obtain ⟨account, -, rfl⟩ := List.mem_map.mp hs
    exact fun x => Scrape.writes_whenSome fun v => by simp [Update.family]
  · split
    · exact fun x => Scrape.writes_whenSome fun v => by simp [Update.family]
    · trivial

end Shared

/-- The stage of tracked tokens. -/
def Stage.tokens (tokens : List TrackedToken) : Stage where
  scrape := trackTokens tokens
  families := [.tokenBalance, .tokenSupply]
  writes := writes_trackTokens tokens

/-! ## The scrape of the storage network's chain -/

namespace FsChainJob

open Update (family_of_mem_replacing)

variable (job : FsChainJob) (listing : Listing)

/-- The network map goes into nine. -/
private theorem writes_netmapStep : (job.netmapStep listing).Writes netmapFamilies := by
  refine fun nm => Scrape.writes_whenSome fun nm cs => Scrape.writes_whenSome fun cs => ?_
  refine Scrape.writes_askEach (fun n next hnext gas deposit => hnext _) fun reports => ?_
  exact Scrape.writes_put.mpr family_mem_netmapUpdates

/-- The divergence of alphabets goes into its own. -/
theorem writes_divergenceStep (fs : List PublicKey) :
    (job.divergenceStep fs).Writes [.alphabetDivergence] := by
  rw [divergenceStep]
  split
  · refine fun main => Scrape.writes_whenSome fun main => Scrape.writes_put.mpr fun u hu => ?_
    simp [family_of_mem_replacing hu]
  · trivial

/-- The step of the alphabet has three families. -/
private theorem writes_alphabetStep :
    (job.alphabetStep listing).Writes
      [.alphabetPublicKey, .alphabetDeposit, .alphabetDivergence] := by
  refine fun keys => Scrape.writes_whenSome fun keys => Scrape.writes_inTurn ?_
  simp only [List.forall_mem_cons, List.not_mem_nil, false_implies, implies_true, and_true]
  refine ⟨(writes_publishAlphabet keys).mono ?_, writes_publishPerKey.mono ?_,
    (job.writes_divergenceStep keys).mono ?_⟩ <;> simp

/-- The usage of containers goes into two. -/
theorem writes_containerUsageStep :
    containerUsageStep.Writes [.containerSize, .containerObjects] := by
  refine fun us => Scrape.writes_whenSome fun us => Scrape.writes_put.mpr ?_
  rw [usageUpdates, List.forall_mem_append]
  constructor
  · intro u hu
    simp [family_of_mem_replacing hu]
  · intro u hu
    simp [family_of_mem_replacing hu]

/-- State roots go into their own. -/
theorem writes_rootStep (height : Nat) : (rootStep height).Writes [.chainState] := by
  intro roots
  dsimp only
  split
  · trivial
  · refine Scrape.writes_put.mpr fun u hu => ?_
    simp [family_of_mem_replacing hu]

/-- The step of heights has two families. -/
private theorem writes_heightStep : heightStep.Writes [.chainHeight, .chainState] := by
  intro heights
  dsimp only
  split
  · trivial
  · refine ⟨fun u hu => ?_, Scrape.writes_whenSome fun height => (writes_rootStep height).mono ?_⟩
    · simp [family_of_mem_replacing hu]
    · simp

/-- The stage of the network map. -/
def netmapStage : Stage where
  scrape := job.netmapStep listing
  families := netmapFamilies
  writes := job.writes_netmapStep listing

/-- The stage of the inner ring. -/
def innerRingStage : Stage where
  scrape := innerRingStep listing
  families := [.innerRingBalance]
  writes := fun _ => Scrape.writes_whenSome fun _ => writes_publishPerKey

/-- The stage of the proxy contract. -/
def proxyStage : Stage where
  scrape := job.proxyStep
  families := [.proxyBalance]
  writes := Scrape.writes_whenSome fun proxy x => Scrape.writes_whenSome fun v => by
    simp [Update.family]

/-- The stage of the chain's supply. -/
def supplyStage : Stage where
  scrape := job.supplyStep
  families := [.fsChainSupply]
  writes := fun x => Scrape.writes_whenSome fun v => by simp [Update.family]

/-- The stage of the alphabet. -/
def alphabetStage : Stage where
  scrape := job.alphabetStep listing
  families := [.alphabetPublicKey, .alphabetDeposit, .alphabetDivergence]
  writes := job.writes_alphabetStep listing

/-- The stage of the number of containers. -/
def containerTotalStage : Stage where
  scrape := containerTotalStep
  families := [.containers]
  writes := fun n => Scrape.writes_whenSome fun n => by simp [Update.family]

/-- The stage of the usage of containers. -/
def containerUsageStage : Stage where
  scrape := containerUsageStep
  families := [.containerSize, .containerObjects]
  writes := writes_containerUsageStep

/-- The stage of heights and state roots. -/
def heightStage : Stage where
  scrape := heightStep
  families := [.chainHeight, .chainState]
  writes := writes_heightStep

end FsChainJob

/-! ## The scrape of the main chain -/

namespace MainChainJob

variable (job : MainChainJob) (listing : Listing)

/-- The stage of the alphabet. -/
def alphabetStage : Stage where
  scrape := alphabetStep listing
  families := [.alphabetPublicKey, .alphabetBalance]
  writes := fun keys => Scrape.writes_whenSome fun keys =>
    Scrape.writes_andThen ((writes_publishAlphabet keys).mono (by simp))
      (writes_publishPerKey.mono (by simp))

/-- The stage of the supply. -/
def supplyStage : Stage where
  scrape := job.supplyStep
  families := [.mainChainSupply]
  writes := Scrape.writes_whenSome fun neofs x => Scrape.writes_whenSome fun v => by
    simp [Update.family]

end MainChainJob

/-! ## Both scrapes -/

namespace Job

/-- The stages of a scrape. -/
def stages (listing : Listing) : Job → List Stage
  | .fsChain job =>
    [job.netmapStage listing, FsChainJob.innerRingStage listing, job.proxyStage, job.supplyStage,
      job.alphabetStage listing, FsChainJob.containerTotalStage, FsChainJob.containerUsageStage,
      FsChainJob.heightStage, .tokens job.tokens]
  | .mainChain job =>
    [MainChainJob.alphabetStage listing, job.supplyStage, .tokens job.tokens]

/-- A scrape is its stages in turn. -/
theorem scrape_eq_stages (job : Job) (listing : Listing) :
    job.scrape listing = Scrape.inTurn ((job.stages listing).map (·.scrape)) := by
  cases job with
  | fsChain job => rfl
  | mainChain job => rfl

/-- No two stages of a scrape share a family. -/
theorem stages_apart (job : Job) (listing : Listing) :
    (job.stages listing).Pairwise Stage.Apart := by
  -- What a stage has to itself does not depend on how the job is set up.
  suffices ((job.stages listing).map (·.families)).Pairwise fun s t => ∀ f ∈ s, f ∉ t by
    rwa [List.pairwise_map] at this
  cases job with
  | fsChain job =>
    simp only [stages, List.map_cons, List.map_nil, FsChainJob.netmapStage,
      FsChainJob.innerRingStage, FsChainJob.proxyStage, FsChainJob.supplyStage,
      FsChainJob.alphabetStage, FsChainJob.containerTotalStage, FsChainJob.containerUsageStage,
      FsChainJob.heightStage, Stage.tokens]
    decide
  | mainChain job =>
    simp only [stages, List.map_cons, List.map_nil, MainChainJob.alphabetStage,
      MainChainJob.supplyStage, Stage.tokens]
    decide

end Job

/-- The families of the main chain. -/
def MainChainJob.families : List Family :=
  [.alphabetPublicKey, .alphabetBalance, .mainChainSupply, .tokenBalance, .tokenSupply]

/-- Nothing else is written on the main chain. -/
theorem MainChainJob.stages_within (job : MainChainJob) (listing : Listing) :
    ∀ t ∈ (Job.mainChain job).stages listing, t.families ⊆ families := by
  simp only [Job.stages, List.forall_mem_cons, MainChainJob.alphabetStage,
    MainChainJob.supplyStage, Stage.tokens]
  decide

end ChainGauge
