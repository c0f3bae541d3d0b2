import ChainGauge.Proofs.Scrape.Round

/-!
# Families of keys, containers and hosts

These families have one label. Each is replaced whenever the list that it shows was read, and keeps
its samples otherwise; where a value was looked up for each key, keys without one are left out.
So after any number of iterations, whatever was answered in them, a family shows the latest list that
was read. An entry can be missing even so: a family tells its samples apart by a hash of the label, and
where two entries have one hash only the first one is shown.

## Key results

- `Round.about_innerRing` and others: what an iteration makes of a family is told by what it read
- `Metrics.labels_of_latest_lists`: what all seven families show after any iterations
- `Metrics.container_run_together`: a container that was listed and is not shown
-/

namespace ChainGauge

open Update (replacing)

/-! ## What an iteration read -/

namespace Round

/-- The inner ring that an iteration read behind the network map, with the balances of its keys. -/
def innerRing? (r : Round) : Option (List (PublicKey × Option Float)) :=
  match r.job with
  | .fsChain _ => (r.behind 1 0 .innerRing).map ((r.behind 1).drop 1).balances
  | .mainChain _ => none

/-- The alphabet that an iteration read: on the storage network's chain behind the supply, on the main
chain first of all. -/
def alphabet? (r : Round) : Option (List PublicKey) :=
  match r.job with
  | .fsChain _ => r.behind 4 0 .alphabet
  | .mainChain _ => r.answers 0 .alphabet

/-- The alphabet that an iteration read on the storage network's chain, with the deposits of its
keys. -/
def deposits? (r : Round) : Option (List (PublicKey × Option Float)) :=
  match r.job with
  | .fsChain _ => r.alphabet?.map ((r.behind 4).drop 1).deposits
  | .mainChain _ => none

/-- The alphabet that an iteration read on the main chain, with the balances of its keys. -/
def balances? (r : Round) : Option (List (PublicKey × Option Float)) :=
  match r.job with
  | .fsChain _ => none
  | .mainChain _ => r.alphabet?.map (r.answers.drop 1).balances

/-- The usage of containers that an iteration read behind their number. -/
def usages? (r : Round) : Option (List ContainerUsage) :=
  match r.job with
  | .fsChain _ => r.behind 6 0 .containerUsages
  | .mainChain _ => none

/-- The heights that an iteration read behind the containers, if there were any. -/
def heights? (r : Round) : Option (List (String × Nat)) :=
  match r.job with
  | .fsChain _ =>
    let heights := r.behind 7 0 .heights
    if heights.isEmpty then none else some heights
  | .mainChain _ => none

end Round

/-! ## What an iteration changes -/

namespace Round

variable (r : Round)

/-- What an iteration makes of the balances of the inner ring. -/
theorem about_innerRing :
    Update.about .innerRingBalance r.updates = r.innerRing?.elim [] fun found =>
      replacing .innerRingBalance
        (r.listing.order .innerRingBalance (Table.latest (keyEntries found))) := by
  obtain ⟨job | job, a, listing⟩ := r
  · have hstage : (stages ⟨.fsChain job, a, listing⟩)[1]? =
        some (FsChainJob.innerRingStage listing) := rfl
    -- The updates about the family are those of its stage, run on the answers left to it.
    rw [about_stage _ hstage (List.mem_singleton_self _), innerRing?, Option.elim_map]
    simp only [FsChainJob.innerRingStage, FsChainJob.innerRingStep, Scrape.updates_ask,
      Scrape.updates_whenSome, updates_publishBalances, Update.about_elim,
      Update.about_replacing, ↓reduceIte]
    rfl
  · exact about_eq_nil_of_mainChain job a listing (by decide)

/-- On the storage network's chain the keys of the alphabet are shown with their deposits; the
comparison with the main chain comes behind that, and is about a family of its own. -/
private theorem about_alphabet_of_fsChain (job : FsChainJob) (a : Answers) (listing : Listing) :
    let r : Round := ⟨.fsChain job, a, listing⟩
    Update.about .alphabetPublicKey r.updates = (r.alphabet?.elim [] fun keys =>
        replacing .alphabetPublicKey (alphabetEntries keys)) ∧
      Update.about .alphabetDeposit r.updates = r.deposits?.elim [] fun found =>
        replacing .alphabetDeposit
          (listing.order .alphabetDeposit (Table.latest (keyEntries found))) := by
  intro r
  have hstage : r.stages[4]? = some (job.alphabetStage listing) := rfl
  -- The comparison at the end of the stage writes a family of its own.
  have hothers {f : Family} (hf : f ≠ .alphabetDivergence) (fs : List PublicKey) (a : Answers) :
      Update.about f ((job.divergenceStep fs).updates a) = [] :=
    Update.about_eq_nil fun u hu heq => hf
      (heq.symm.trans (List.mem_singleton.mp ((job.writes_divergenceStep fs).family_mem a u hu)))
  rw [r.about_stage hstage (by simp [FsChainJob.alphabetStage]),
    r.about_stage hstage (by simp [FsChainJob.alphabetStage])]
  simp only [FsChainJob.alphabetStage, FsChainJob.alphabetStep, Scrape.updates_ask,
    Scrape.updates_whenSome, Scrape.inTurn, Scrape.updates_andThen, publishAlphabet,
    Scrape.updates_put, updates_publishDeposits, Update.about_elim, Update.about_append,
    Update.about_replacing, Scrape.updates, hothers, ne_eq, reduceCtorEq, not_false_eq_true,
    ↓reduceIte, List.append_nil, List.nil_append]
  rw [show r.deposits? = r.alphabet?.map ((r.behind 4).drop 1).deposits from rfl, Option.elim_map]
  exact ⟨rfl, rfl⟩

/-- On the main chain the keys of the alphabet are shown with their balances. -/
private theorem about_alphabet_of_mainChain (job : MainChainJob) (a : Answers)
    (listing : Listing) :
    let r : Round := ⟨.mainChain job, a, listing⟩
    Update.about .alphabetPublicKey r.updates = (r.alphabet?.elim [] fun keys =>
        replacing .alphabetPublicKey (alphabetEntries keys)) ∧
      Update.about .alphabetBalance r.updates = r.balances?.elim [] fun found =>
        replacing .alphabetBalance
          (listing.order .alphabetBalance (Table.latest (keyEntries found))) := by
  intro r
  have hstage : r.stages[0]? = some (MainChainJob.alphabetStage listing) := rfl
  rw [r.about_stage hstage (by simp [MainChainJob.alphabetStage]),
    r.about_stage hstage (by simp [MainChainJob.alphabetStage])]
  simp only [MainChainJob.alphabetStage, MainChainJob.alphabetStep, Scrape.updates_ask,
    Scrape.updates_whenSome, Scrape.updates_andThen, publishAlphabet, Scrape.updates_put,
    updates_publishBalances, Update.about_elim, Update.about_append, Update.about_replacing,
    reduceCtorEq, ↓reduceIte, List.append_nil, List.nil_append]
  rw [show r.balances? = r.alphabet?.map ((r.behind 0).drop 1).balances from rfl, Option.elim_map]
  exact ⟨rfl, rfl⟩

/-- What it makes of the keys of the alphabet. -/
private theorem about_alphabet :
    Update.about .alphabetPublicKey r.updates =
      r.alphabet?.elim [] fun keys => replacing .alphabetPublicKey (alphabetEntries keys) := by
  obtain ⟨job | job, a, listing⟩ := r
  · exact (about_alphabet_of_fsChain job a listing).1
  · exact (about_alphabet_of_mainChain job a listing).1

/-- What it makes of their deposits. -/
private theorem about_deposits :
    Update.about .alphabetDeposit r.updates = r.deposits?.elim [] fun found =>
      replacing .alphabetDeposit
        (r.listing.order .alphabetDeposit (Table.latest (keyEntries found))) := by
  obtain ⟨job | job, a, listing⟩ := r
  · exact (about_alphabet_of_fsChain job a listing).2
  · exact about_eq_nil_of_mainChain job a listing (by decide)

/-- What it makes of their balances. -/
private theorem about_balances :
    Update.about .alphabetBalance r.updates = r.balances?.elim [] fun found =>
      replacing .alphabetBalance
        (r.listing.order .alphabetBalance (Table.latest (keyEntries found))) := by
  obtain ⟨job | job, a, listing⟩ := r
  · refine about_eq_nil _ ?_
    simp [stages, Job.stages, FsChainJob.netmapStage, FsChainJob.netmapFamilies,
      FsChainJob.innerRingStage, FsChainJob.proxyStage, FsChainJob.supplyStage,
      FsChainJob.alphabetStage, FsChainJob.containerTotalStage, FsChainJob.containerUsageStage,
      FsChainJob.heightStage, Stage.tokens]
  · exact (about_alphabet_of_mainChain job a listing).2

/-- Sizes and numbers of objects are replaced together. -/
private theorem about_usages :
    Update.about .containerSize r.updates =
        (r.usages?.elim [] fun us => replacing .containerSize (FsChainJob.sizeEntries us)) ∧
      Update.about .containerObjects r.updates =
        r.usages?.elim [] fun us => replacing .containerObjects (FsChainJob.objectEntries us) := by
  obtain ⟨job | job, a, listing⟩ := r
  -- Their place is the seventh stage on the storage network's chain.
  · have hstage : (stages ⟨.fsChain job, a, listing⟩)[6]? = some FsChainJob.containerUsageStage :=
      rfl
    rw [about_stage _ hstage (by simp [FsChainJob.containerUsageStage]),
      about_stage _ hstage (by simp [FsChainJob.containerUsageStage])]
    simp only [FsChainJob.containerUsageStage, FsChainJob.containerUsageStep, Scrape.updates_ask,
      Scrape.updates_whenSome, Scrape.updates_put, Update.about_elim,
      FsChainJob.about_usageUpdates]
    exact ⟨rfl, rfl⟩
  · exact ⟨about_eq_nil_of_mainChain job a listing (by decide),
      about_eq_nil_of_mainChain job a listing (by decide)⟩

/-- What it makes of the heights of hosts. -/
private theorem about_heights :
    Update.about .chainHeight r.updates =
      r.heights?.elim [] fun hs => replacing .chainHeight (FsChainJob.heightEntries hs) := by
  obtain ⟨job | job, a, listing⟩ := r
  -- The state roots are asked for behind the heights, and publish another family.
  · have hroots (height : Option Nat) (a : Answers) :
        Update.about .chainHeight
          ((Scrape.whenSome height FsChainJob.rootStep).updates a) = [] := by
      have hwrites : (Scrape.whenSome height FsChainJob.rootStep).Writes [.chainState] :=
        Scrape.writes_whenSome FsChainJob.writes_rootStep
      refine Update.about_eq_nil fun u hu => ?_
      rw [List.mem_singleton.mp (hwrites.family_mem a u hu)]
      decide
    have hstage : (stages ⟨.fsChain job, a, listing⟩)[7]? = some FsChainJob.heightStage := rfl
    rw [about_stage _ hstage List.mem_cons_self, heights?]
    simp only [FsChainJob.heightStage, FsChainJob.heightStep, Scrape.updates_ask]
    split
    · rfl
    · rw [Scrape.updates, Update.about_append, Update.about_replacing, if_pos rfl, hroots,
        List.append_nil]
      rfl
  · exact about_eq_nil_of_mainChain job a listing (by decide)

end Round

/-! ## The labels after a run -/

namespace Metrics

/-- After any iterations, whatever was answered in them, the families of keys, containers and hosts
show the latest lists that were read, without the keys whose own lookup brought nothing. Nothing else is
shown, and all of them are, unless two have the same key. -/
theorem labels_of_latest_lists (m : Metrics) (rounds : List Round) :
    m.ShowsLatest rounds .innerRingBalance Round.innerRing? NamesFound ∧
    m.ShowsLatest rounds .alphabetPublicKey Round.alphabet?
      (fun keys labels => ∃ k ∈ keys, labels = [k.toHex]) ∧
    (∀ keys ∈ latest Round.alphabet? rounds,
      ∀ s ∈ (m.after rounds).samplesOf .alphabetPublicKey, s.value = 1) ∧
    m.ShowsLatest rounds .alphabetDeposit Round.deposits? NamesFound ∧
    m.ShowsLatest rounds .alphabetBalance Round.balances? NamesFound ∧
    m.ShowsLatest rounds .containerSize Round.usages?
      (fun usages labels => ∃ u ∈ usages, labels = [u.id]) ∧
    m.ShowsLatest rounds .containerObjects Round.usages?
      (fun usages labels => ∃ u ∈ usages, labels = [u.id]) ∧
    m.ShowsLatest rounds .chainHeight Round.heights?
      (fun heights labels => ∃ h ∈ heights, labels = [h.1]) := by
  -- A listing changes the order only, so it lists the same keys.
  have hfound {f : Family} (r : Round) (found : List (PublicKey × Option Float))
      (labels : List String) :
      labels ∈ (r.listing.order f (Table.latest (keyEntries found))).map (·.1) ↔
        NamesFound found labels :=
    mem_listed_keyEntries r.listing
  refine ⟨showsLatest_of_replacing Round.about_innerRing m rounds hfound,
    showsLatest_of_replacing Round.about_alphabet m rounds ?_, ?_,
    showsLatest_of_replacing Round.about_deposits m rounds hfound,
    showsLatest_of_replacing Round.about_balances m rounds hfound,
    showsLatest_of_replacing (fun r => r.about_usages.1) m rounds ?_,
    showsLatest_of_replacing (fun r => r.about_usages.2) m rounds ?_,
    showsLatest_of_replacing Round.about_heights m rounds ?_⟩
  · intro _ keys labels
    simp [alphabetEntries, eq_comm]
  · intro keys hkeys s hs
    rcases samplesOf_after_replacing Round.about_alphabet m rounds with
      ⟨hnone, -⟩ | ⟨keys', _, -, hsamples⟩
    · rw [hnone] at hkeys
      cases hkeys
    · rw [hsamples] at hs
      exact Sample.value_of_mem_collect (by simp [alphabetEntries]) hs
  · intro _ usages labels
    simp [FsChainJob.sizeEntries, eq_comm]
  · intro _ usages labels
    simp [FsChainJob.objectEntries, eq_comm]
  · intro _ heights labels
    simp [FsChainJob.heightEntries, eq_comm]

/-- Two containers whose identifiers have one key. -/
def twinUsages : List ContainerUsage :=
  [⟨"CCCCCCCCCCCCCCCCCCCCCCCCCCCCCCCCdhYaW7cPPsH", 1, 1⟩,
    ⟨"CCCCCCCCCCCCCCCCCCCCCCCCCCCCCCCCVG1pKLxHQtV", 2, 2⟩]

/-- An iteration that hears of two containers whose identifiers have one key. -/
def twinRound : Round where
  job := .fsChain ⟨.gas, none, false, none, []⟩
  answers := .always fun
    | .containerUsages => some twinUsages
    | s => s.unanswered

/-- Of two containers that were listed one is not shown. -/
theorem container_run_together :
    latest Round.usages? [twinRound] = some twinUsages ∧
    twinUsages.map (·.id) = ["CCCCCCCCCCCCCCCCCCCCCCCCCCCCCCCCdhYaW7cPPsH",
      "CCCCCCCCCCCCCCCCCCCCCCCCCCCCCCCCVG1pKLxHQtV"] ∧
    ((empty .fsChain).after [twinRound]).labelsOf .containerSize =
      [["CCCCCCCCCCCCCCCCCCCCCCCCCCCCCCCCdhYaW7cPPsH"]] ∧
    ((empty .fsChain).after [twinRound]).labelsOf .containerObjects =
      [["CCCCCCCCCCCCCCCCCCCCCCCCCCCCCCCCdhYaW7cPPsH"]] := by
  refine ⟨rfl, rfl, ?_, ?_⟩
  · decide +kernel
  · decide +kernel

end Metrics

end ChainGauge
