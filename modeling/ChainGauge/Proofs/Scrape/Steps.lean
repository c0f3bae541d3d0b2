import ChainGauge.Proofs.Scrape.Stage

/-!
# Steps of a scrape

Where every answer is a function of its question, a scrape is a row of steps, finer than its stages,
each with changes that are told by a few answers (`FsChainJob.Step.updates`) and with families of
its own. What an iteration makes of a family are then the changes of one step.

## Key results

- `FsChainJob.updates_always`, `MainChainJob.updates_always`: a scrape makes its steps' changes
- `FsChainJob.samplesOf_process`, `MainChainJob.samplesOf_process`: the samples of a family are told
  by its step
-/

namespace ChainGauge

open Update (replacing)

/-- What the questions of an iteration bring, where this does not change within the iteration, and
the table of locations. -/
structure Fetchers where
  answer : (s : Source) → s.Answer
  geo : Option LocodeTable

/-! ## Changes where answers stay the same -/

namespace Scrape

variable {answer : (s : Source) → s.Answer} {s t : Scrape}

/-- What changes behind a question that is always answered alike. -/
private theorem updates_ask_always (source : Source) (next : source.Answer → Scrape) :
    (Scrape.ask source next).updates (.always answer) =
      (next (answer source)).updates (.always answer) := rfl

/-- Who always answers alike leaves the same answers behind a scrape. -/
@[simp] theorem left_always (s : Scrape) : s.left (.always answer) = .always answer := by
  induction s with
  | done => rfl
  | ask source next ih => exact ih (answer source)
  | publish us next ih => exact ih

/-- The changes of scrapes in turn, where answers are always alike. -/
private theorem updates_andThen_always (s t : Scrape) :
    (s.andThen t).updates (.always answer) =
      s.updates (.always answer) ++ t.updates (.always answer) := by
  rw [updates_andThen, left_always]

/-- The changes of any number of them. -/
private theorem updates_inTurn_always (scrapes : List Scrape) :
    (inTurn scrapes).updates (.always answer) =
      scrapes.flatMap (·.updates (.always answer)) := by
  induction scrapes with
  | nil => rfl
  | cons s scrapes ih => rw [inTurn, updates_andThen_always, ih, List.flatMap_cons]

end Scrape

/-- A change came of an answer that was there. -/
private theorem Update.mem_of_mem_elim {α : Type} {x : Option α} {changes : α → List Update}
    {u : Update}
    (h : u ∈ x.elim [] changes) : ∃ a, x = some a ∧ u ∈ changes a := by
  cases x with
  | none => cases h
  | some a => exact ⟨a, rfl, h⟩

namespace Answers

variable (answer : (s : Source) → s.Answer) (keys : List PublicKey)

/-- Balances that are always answered alike. -/
private theorem balances_always :
    (always answer).balances keys = keys.map fun k => (k, answer (.balance .gas k.account)) :=
  each_always ..

/-- Deposits that are always answered alike. -/
private theorem deposits_always :
    (always answer).deposits keys = keys.map fun k => (k, answer (.deposit k.account)) :=
  each_always ..

end Answers

/-! ## Steps with families of their own -/

section Steps

variable {ι : Type} {steps : List ι} {families : ι → List Family} {changes : ι → List Update}
  {step : ι} {f : Family}

/-- Among steps with families of their own, a family is changed by its step only. -/
private theorem about_steps (hwrites : ∀ s, ∀ u ∈ changes s, u.family ∈ families s)
    (hapart : steps.Pairwise fun s t => ∀ f ∈ families s, f ∉ families t)
    (hstep : step ∈ steps) (hf : f ∈ families step) :
    Update.about f (steps.flatMap changes) = Update.about f (changes step) := by
  induction steps with
  | nil => cases hstep
  | cons first rest ih =>
    obtain ⟨hfirst, hrest⟩ := List.pairwise_cons.mp hapart
    rw [List.flatMap_cons, Update.about_append]
    -- The family belongs to one step only, so the updates of the others drop out.
    rcases List.mem_cons.mp hstep with rfl | hmem
    · have hothers : Update.about f (rest.flatMap changes) = [] := by
        refine Update.about_eq_nil fun u hu heq => ?_
        obtain ⟨t, ht, hut⟩ := List.mem_flatMap.mp hu
        exact hfirst t ht f hf (heq ▸ hwrites t u hut)
      rw [hothers, List.append_nil]
    · have hnone : Update.about f (changes first) = [] :=
        Update.about_eq_nil fun u hu heq => hfirst step hmem f (heq ▸ hwrites first u hu) hf
      rw [hnone, List.nil_append, ih hrest hmem]

end Steps

/-! ## Tracked tokens -/

namespace TrackedToken

variable (answer : (s : Source) → s.Answer) (t : TrackedToken)

/-- The changes that publish what was found for a token. -/
def updates : List Update :=
  (t.accounts.flatMap fun account => (answer (.balance t.hash account)).elim [] fun x =>
    [.set .tokenBalance [t.label, t.symbol, t.hash.toHex, account.toAddress] x]) ++
  if t.total then
    (answer (.supply t.hash)).elim [] fun x =>
      [.set .tokenSupply [t.label, t.symbol, t.hash.toHex] x]
  else []

/-- What a token publishes. -/
private theorem updates_scrape : t.scrape.updates (.always answer) = t.updates answer := by
  rw [scrape, Scrape.updates_andThen_always, Scrape.updates_inTurn_always, updates,
    List.flatMap_map]
  congr 1
  · refine List.flatMap_congr fun account _ => ?_
    rw [balanceOf, Scrape.updates_ask_always, Scrape.updates_whenSome]
    simp only [Scrape.updates_put]
  · split
    · rw [supply, Scrape.updates_ask_always, Scrape.updates_whenSome]
      simp only [Scrape.updates_put]
    · rfl

end TrackedToken

/-- What tracked tokens publish, one after another. -/
private theorem updates_trackTokens (answer : (s : Source) → s.Answer)
    (tokens : List TrackedToken) :
    (trackTokens tokens).updates (.always answer) = tokens.flatMap (·.updates answer) := by
  rw [trackTokens, Scrape.updates_inTurn_always, List.flatMap_map]
  exact List.flatMap_congr fun t _ => t.updates_scrape answer

/-- They keep to their two families. -/
private theorem family_mem_tokens (answer : (s : Source) → s.Answer) (tokens : List TrackedToken) :
    ∀ u ∈ tokens.flatMap (·.updates answer), u.family ∈ [Family.tokenBalance, .tokenSupply] := by
  rw [← updates_trackTokens]
  exact (writes_trackTokens tokens).family_mem _

/-! ## The scrape of the storage network's chain -/

namespace FsChainJob

/-- The steps of the scrape. -/
inductive Step where
  | netmap
  | innerRing
  | proxy
  | supply
  | alphabet
  | divergence
  | containerTotal
  | containerUsage
  | heights
  | states
  | tokens
  deriving DecidableEq

namespace Step

/-- All steps, in the order in which they publish. -/
def all : List Step :=
  [.netmap, .innerRing, .proxy, .supply, .alphabet, .divergence, .containerTotal, .containerUsage,
    .heights, .states, .tokens]

/-- The families that a step writes. -/
def families : Step → List Family
  | .netmap => netmapFamilies
  | .innerRing => [.innerRingBalance]
  | .proxy => [.proxyBalance]
  | .supply => [.fsChainSupply]
  | .alphabet => [.alphabetPublicKey, .alphabetDeposit]
  | .divergence => [.alphabetDivergence]
  | .containerTotal => [.containers]
  | .containerUsage => [.containerSize, .containerObjects]
  | .heights => [.chainHeight]
  | .states => [.chainState]
  | .tokens => [.tokenBalance, .tokenSupply]

end Step

/-- What is looked up for a node. -/
def report (job : FsChainJob) (x : Fetchers) (n : Node) : NodeReport :=
  ⟨n.key.toHex, x.answer (.balance .gas n.key.account), x.answer (.deposit n.key.account),
    placeOf { job with geo := x.geo } n⟩

/-- The changes that a step makes. -/
def Step.updates (job : FsChainJob) (x : Fetchers) (listing : Listing) : Step → List Update
  | .netmap => (x.answer .netmap).elim [] fun nm => (x.answer .candidates).elim [] fun cs =>
      netmapUpdates listing nm cs (nm.nodes.map (job.report x))
  | .innerRing => (x.answer .innerRing).elim [] fun keys =>
      replacing .innerRingBalance (listing.order .innerRingBalance (Table.latest
        (keyEntries (keys.map fun k => (k, x.answer (.balance .gas k.account))))))
  | .proxy => job.proxy.elim [] fun proxy => (x.answer (.balance .gas proxy)).elim [] fun v =>
      [.set .proxyBalance [] v]
  | .supply => (x.answer (.supply job.balance)).elim [] fun v => [.set .fsChainSupply [] v]
  | .alphabet => (x.answer .alphabet).elim [] fun keys =>
      replacing .alphabetPublicKey (alphabetEntries keys) ++
        replacing .alphabetDeposit (listing.order .alphabetDeposit (Table.latest
          (keyEntries (keys.map fun k => (k, x.answer (.deposit k.account))))))
  | .divergence =>
    if job.comparesAlphabets then
      (x.answer .alphabet).elim [] fun fs => (x.answer .mainAlphabet).elim [] fun main =>
        divergenceUpdates main fs
    else []
  | .containerTotal => (x.answer .containerTotal).elim [] fun n =>
      [.set .containers [] (Binary64.nearestNat n)]
  | .containerUsage => (x.answer .containerUsages).elim [] usageUpdates
  | .heights =>
    if (x.answer .heights).isEmpty then []
    else replacing .chainHeight (heightEntries (x.answer .heights))
  | .states => (lowest? (x.answer .heights)).elim [] fun height =>
      if (x.answer (.roots height)).isEmpty then []
      else replacing .chainState (rootEntries height (x.answer (.roots height)))
  | .tokens => job.tokens.flatMap (·.updates x.answer)

section Updates

variable (job : FsChainJob) (x : Fetchers) (listing : Listing)

/-- The step of the network map makes its changes. -/
private theorem updates_netmapStep :
    (netmapStep { job with geo := x.geo } listing).updates (.always x.answer) =
      Step.updates job x listing .netmap := by
  have hreports (nodes : List Node) :
      inspected { job with geo := x.geo } nodes (.always x.answer) = nodes.map (job.report x) :=
    Answers.each_always ..
  simp only [netmapStep, Scrape.updates_ask_always, Scrape.updates_whenSome,
    updates_publishNetmap, hreports, Step.updates]

/-- So does that of the inner ring. -/
private theorem updates_innerRingStep :
    (innerRingStep listing).updates (.always x.answer) = Step.updates job x listing .innerRing := by
  simp only [innerRingStep, Scrape.updates_ask_always, Scrape.updates_whenSome,
    updates_publishBalances, Answers.balances_always, Step.updates]

/-- So does that of the proxy contract. -/
private theorem updates_proxyStep :
    (proxyStep { job with geo := x.geo }).updates (.always x.answer) =
      Step.updates job x listing .proxy := by
  simp only [proxyStep, Scrape.updates_ask_always, Scrape.updates_whenSome, Scrape.updates_put,
    Step.updates]

/-- So does that of the supply. -/
private theorem updates_supplyStep :
    (supplyStep { job with geo := x.geo }).updates (.always x.answer) =
      Step.updates job x listing .supply := by
  simp only [supplyStep, Scrape.updates_ask_always, Scrape.updates_whenSome, Scrape.updates_put,
    Step.updates]

/-- What the alphabet makes of its families is followed by the comparison with the main chain. -/
private theorem updates_alphabetStep :
    (alphabetStep { job with geo := x.geo } listing).updates (.always x.answer) =
      Step.updates job x listing .alphabet ++ Step.updates job x listing .divergence := by
  rw [alphabetStep, Scrape.updates_ask_always, Scrape.updates_whenSome, Step.updates, Step.updates]
  -- The comparison is made with the keys just read, so without them both steps change nothing.
  cases hkeys : x.answer .alphabet with
  | none => simp
  | some keys =>
    simp only [Option.elim_some, Scrape.updates_inTurn_always, List.flatMap_cons,
      List.flatMap_nil, List.append_nil, publishAlphabet, Scrape.updates_put,
      updates_publishDeposits, Answers.deposits_always, divergenceStep, List.append_assoc]
    split
    · simp only [Scrape.updates_ask_always, Scrape.updates_whenSome, Scrape.updates_put]
    · rfl

/-- So does that of the number of containers. -/
private theorem updates_containerTotalStep :
    containerTotalStep.updates (.always x.answer) = Step.updates job x listing .containerTotal := by
  simp only [containerTotalStep, Scrape.updates_ask_always, Scrape.updates_whenSome,
    Scrape.updates_put, Step.updates]

/-- So does that of their usage. -/
private theorem updates_containerUsageStep :
    containerUsageStep.updates (.always x.answer) = Step.updates job x listing .containerUsage := by
  simp only [containerUsageStep, Scrape.updates_ask_always, Scrape.updates_whenSome,
    Scrape.updates_put, Step.updates]

/-- The state roots follow the heights, at the lowest of these. -/
private theorem updates_heightStep :
    heightStep.updates (.always x.answer) =
      Step.updates job x listing .heights ++ Step.updates job x listing .states := by
  rw [heightStep, Scrape.updates_ask_always, Step.updates, Step.updates]
  -- No heights, no lowest one: neither step changes anything.
  by_cases hempty : (x.answer .heights).isEmpty
  · rw [if_pos hempty, if_pos hempty, List.isEmpty_iff.mp hempty]
    rfl
  · rw [if_neg hempty, if_neg hempty, Scrape.updates, Scrape.updates_whenSome]
    refine congrArg (_ ++ Option.elim _ [] ·) (funext fun height => ?_)
    rw [rootStep, Scrape.updates_ask_always]
    split
    · rfl
    · rw [Scrape.updates_put]

/-- The scrape makes the changes of its steps. -/
theorem updates_always :
    (scrape { job with geo := x.geo } listing).updates (.always x.answer) =
      Step.all.flatMap (Step.updates job x listing) := by
  simp only [scrape, Scrape.updates_inTurn_always, Step.all, List.flatMap_cons, List.flatMap_nil,
    List.append_nil, updates_netmapStep, updates_innerRingStep job, updates_proxyStep job x listing,
    updates_supplyStep job x listing, updates_alphabetStep,
    updates_containerTotalStep job x listing, updates_containerUsageStep job x listing,
    updates_heightStep job x listing, updates_trackTokens, List.append_assoc]
  rfl

namespace Step

/-- A step on the storage network's chain keeps to its families. -/
private theorem family_mem_updates (step : Step) :
    ∀ u ∈ step.updates job x listing, u.family ∈ step.families := by
  intro u hu
  -- One case per step: what it publishes when its source answers.
  cases step with
  | netmap =>
    obtain ⟨nm, -, hnm⟩ := Update.mem_of_mem_elim hu
    obtain ⟨cs, -, hcs⟩ := Update.mem_of_mem_elim hnm
    exact family_mem_netmapUpdates u hcs
  | innerRing =>
    obtain ⟨keys, -, hkeys⟩ := Update.mem_of_mem_elim hu
    simp [Update.family_of_mem_replacing hkeys, families]
  | proxy =>
    obtain ⟨proxy, -, hproxy⟩ := Update.mem_of_mem_elim hu
    obtain ⟨v, -, hv⟩ := Update.mem_of_mem_elim hproxy
    rw [List.mem_singleton.mp hv]
    exact List.mem_singleton_self _
  | supply =>
    obtain ⟨v, -, hv⟩ := Update.mem_of_mem_elim hu
    rw [List.mem_singleton.mp hv]
    exact List.mem_singleton_self _
  | alphabet =>
    obtain ⟨keys, -, hkeys⟩ := Update.mem_of_mem_elim hu
    rcases List.mem_append.mp hkeys with hkeys | hdeposits
    · simp [Update.family_of_mem_replacing hkeys, families]
    · simp [Update.family_of_mem_replacing hdeposits, families]
  | divergence =>
    rw [updates] at hu
    split at hu
    · obtain ⟨fs, -, hfs⟩ := Update.mem_of_mem_elim hu
      obtain ⟨main, -, hmain⟩ := Update.mem_of_mem_elim hfs
      simp [Update.family_of_mem_replacing hmain, families]
    · cases hu
  | containerTotal =>
    obtain ⟨n, -, hn⟩ := Update.mem_of_mem_elim hu
    rw [List.mem_singleton.mp hn]
    exact List.mem_singleton_self _
  | containerUsage =>
    rw [← updates_containerUsageStep] at hu
    exact writes_containerUsageStep.family_mem _ u hu
  | heights =>
    rw [updates] at hu
    split at hu
    · cases hu
    · simp [Update.family_of_mem_replacing hu, families]
  | states =>
    obtain ⟨height, -, hheight⟩ := Update.mem_of_mem_elim hu
    split at hheight
    · cases hheight
    · simp [Update.family_of_mem_replacing hheight, families]
  | tokens => exact family_mem_tokens x.answer job.tokens u hu

end Step

end Updates

/-- The changes of an iteration. -/
def changes (job : FsChainJob) (x : Fetchers) (listing : Listing) : List Update :=
  (scrape { job with geo := x.geo } listing).updates (.always x.answer)

/-- The registry after an iteration. -/
def process (job : FsChainJob) (x : Fetchers) (listing : Listing) (m : Metrics) : Metrics :=
  (scrape { job with geo := x.geo } listing).perform (.always x.answer) m

section Process

variable (job : FsChainJob) (x : Fetchers) (listing : Listing) {step : Step} {f : Family}

/-- The changes of a family are those of its step. -/
theorem about_changes (hf : f ∈ step.families) :
    Update.about f (job.changes x listing) = Update.about f (step.updates job x listing) := by
  have hapart : Step.all.Pairwise fun s t => ∀ f ∈ s.families, f ∉ t.families := by decide
  have hmem : step ∈ Step.all := by cases step <;> decide
  rw [changes, updates_always]
  exact about_steps (fun s => s.family_mem_updates job x listing) hapart hmem hf

/-- What an iteration makes of the families of a step are the changes of this step. -/
theorem samplesOf_process (m : Metrics) (step : Step) (hf : f ∈ step.families) :
    (job.process x listing m).samplesOf f =
      Metrics.refill (Update.about f (step.updates job x listing)) (m.samplesOf f) := by
  rw [process, Scrape.perform_eq, Metrics.samplesOf_applyAll, ← about_changes job x listing hf]
  rfl

end Process

end FsChainJob

/-! ## The scrape of the main chain -/

namespace MainChainJob

/-- The steps of the scrape. -/
inductive Step where
  | alphabet
  | supply
  | tokens
  deriving DecidableEq

namespace Step

/-- All steps, in the order in which they publish. -/
def all : List Step :=
  [.alphabet, .supply, .tokens]

/-- The families that a step writes. -/
def families : Step → List Family
  | .alphabet => [.alphabetPublicKey, .alphabetBalance]
  | .supply => [.mainChainSupply]
  | .tokens => [.tokenBalance, .tokenSupply]

/-- The changes that a step makes. -/
def updates (job : MainChainJob) (x : Fetchers) (listing : Listing) : Step → List Update
  | .alphabet => (x.answer .alphabet).elim [] fun keys =>
      replacing .alphabetPublicKey (alphabetEntries keys) ++
        replacing .alphabetBalance (listing.order .alphabetBalance (Table.latest
          (keyEntries (keys.map fun k => (k, x.answer (.balance .gas k.account))))))
  | .supply => job.neofs.elim [] fun neofs => (x.answer (.balance .gas neofs)).elim [] fun v =>
      [.set .mainChainSupply [] v]
  | .tokens => job.tokens.flatMap (·.updates x.answer)

end Step

section Updates

variable (job : MainChainJob) (x : Fetchers) (listing : Listing)

/-- The scrape makes the changes of its steps. -/
theorem updates_always :
    (job.scrape listing).updates (.always x.answer) =
      Step.all.flatMap (Step.updates job x listing) := by
  -- Step by step, what the source publishes is what the step changes.
  have halphabet :
      (alphabetStep listing).updates (.always x.answer) = Step.updates job x listing .alphabet := by
    simp only [alphabetStep, Scrape.updates_ask_always, Scrape.updates_whenSome,
      Scrape.updates_andThen_always, publishAlphabet, Scrape.updates_put,
      updates_publishBalances, Answers.balances_always, Step.updates]
  have hsupply :
      job.supplyStep.updates (.always x.answer) = Step.updates job x listing .supply := by
    simp only [supplyStep, Scrape.updates_ask_always, Scrape.updates_whenSome, Scrape.updates_put,
      Step.updates]
  simp only [scrape, Scrape.updates_inTurn_always, Step.all, List.flatMap_cons, List.flatMap_nil,
    List.append_nil, halphabet, hsupply, updates_trackTokens]
  rfl

namespace Step

/-- So does a step on the main chain. -/
private theorem family_mem_updates (step : Step) :
    ∀ u ∈ step.updates job x listing, u.family ∈ step.families := by
  intro u hu
  cases step with
  | alphabet =>
    obtain ⟨keys, -, hkeys⟩ := Update.mem_of_mem_elim hu
    rcases List.mem_append.mp hkeys with hkeys | hbalances
    · simp [Update.family_of_mem_replacing hkeys, families]
    · simp [Update.family_of_mem_replacing hbalances, families]
  | supply =>
    obtain ⟨neofs, -, hneofs⟩ := Update.mem_of_mem_elim hu
    obtain ⟨v, -, hv⟩ := Update.mem_of_mem_elim hneofs
    rw [List.mem_singleton.mp hv]
    exact List.mem_singleton_self _
  | tokens => exact family_mem_tokens x.answer job.tokens u hu

end Step

end Updates

/-- The changes of an iteration. -/
def changes (job : MainChainJob) (x : Fetchers) (listing : Listing) : List Update :=
  (job.scrape listing).updates (.always x.answer)

/-- The registry after an iteration. -/
def process (job : MainChainJob) (x : Fetchers) (listing : Listing) (m : Metrics) : Metrics :=
  (job.scrape listing).perform (.always x.answer) m

section Process

variable (job : MainChainJob) (x : Fetchers) (listing : Listing) {step : Step} {f : Family}

/-- The changes of a family are those of its step. -/
theorem about_changes (hf : f ∈ step.families) :
    Update.about f (job.changes x listing) = Update.about f (step.updates job x listing) := by
  have hapart : Step.all.Pairwise fun s t => ∀ f ∈ s.families, f ∉ t.families := by decide
  have hmem : step ∈ Step.all := by cases step <;> decide
  rw [changes, updates_always]
  exact about_steps (fun s => s.family_mem_updates job x listing) hapart hmem hf

/-- What an iteration makes of the families of a step are the changes of this step. -/
theorem samplesOf_process (m : Metrics) (step : Step) (hf : f ∈ step.families) :
    (job.process x listing m).samplesOf f =
      Metrics.refill (Update.about f (step.updates job x listing)) (m.samplesOf f) := by
  rw [process, Scrape.perform_eq, Metrics.samplesOf_applyAll, ← about_changes job x listing hf]
  rfl

end Process

end MainChainJob

end ChainGauge
