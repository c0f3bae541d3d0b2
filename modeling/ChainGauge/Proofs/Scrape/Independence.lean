import ChainGauge.Proofs.Scrape.Locations
import ChainGauge.Proofs.Scrape.Steps

/-!
# Steps do not interfere

What a step of a scrape makes of its families depends on the sources of this step only, whatever the
others bring or fail with, and a step whose leading question goes unanswered changes nothing. Which
questions are the sources of a step is told by answers, too: the details of nodes and keys are asked
for of those that were read.

Four families are published off hash tables, and the orders of these come from nowhere in the answers.
Such a family is the same in whatever order its entries come exactly if their keys tell them apart;
otherwise the same answers may show other labels (`Metrics.places_by_order`).

## Key results

- `FsChainJob.Step.updates_congr`, `MainChainJob.Step.updates_congr`: a step reads its sources only
- `FsChainJob.Step.updates_of_unanswered`, `MainChainJob.Step.updates_of_unanswered`: no leading
  answer, no changes
- `Alike.of_fromTable`: what the order of a hash table can make of a family
- `Metrics.steps_independent`: both scrapes, run twice from one registry
-/

namespace ChainGauge

open Update (replacing)

/-- The position of a location. -/
def Fetchers.locate (x : Fetchers) (code : String) : Option Position :=
  x.geo.bind fun geo => (geo.find code).toOption

/-- What is published for keys with what was found for them depends on these finds only. -/
private theorem elim_map_congr {keys : Option (List PublicKey)}
    {found other : PublicKey → Option Float}
    (changes : List PublicKey → List (PublicKey × Option Float) → List Update)
    (h : ∀ k ∈ keys.getD [], found k = other k) :
    (keys.elim [] fun ks => changes ks (ks.map fun k => (k, found k))) =
      keys.elim [] fun ks => changes ks (ks.map fun k => (k, other k)) := by
  cases keys with
  | none => rfl
  | some ks =>
    have hmap : (ks.map fun k => (k, found k)) = ks.map fun k => (k, other k) :=
      List.map_congr_left fun k hk => by rw [h k hk]
    rw [Option.elim_some, Option.elim_some, hmap]

/-! ## Tracked tokens -/

namespace TrackedToken

variable (t : TrackedToken) {answer other : (s : Source) → s.Answer}

/-- The questions for a token. -/
def sources : List Source :=
  t.accounts.map (.balance t.hash) ++ if t.total then [.supply t.hash] else []

/-- What a token publishes depends on its own sources only. -/
theorem updates_congr (h : ∀ s ∈ t.sources, answer s = other s) :
    t.updates answer = t.updates other := by
  rw [updates, updates]
  congr 1
  · refine List.flatMap_congr fun account haccount => ?_
    rw [h (.balance t.hash account)
      (List.mem_append_left _ (List.mem_map_of_mem haccount))]
  · split
    · rename_i htotal
      rw [h (.supply t.hash) (List.mem_append_right _ (by simp [htotal]))]
    · rfl

/-- Without answers it publishes nothing. -/
theorem updates_of_unanswered (h : ∀ s ∈ t.sources, answer s = s.unanswered) :
    t.updates answer = [] := by
  rw [updates_congr t h, updates]
  simp [Source.unanswered]

end TrackedToken

/-! ## The scrape of the storage network's chain -/

namespace FsChainJob

namespace Step

/-- The nodes of the network map that is read. -/
def nodes (x : Fetchers) : List Node :=
  (x.answer .netmap).elim [] (·.nodes)

/-- The questions that a step asks, where details are asked for of what was read before. -/
def sources (job : FsChainJob) (x : Fetchers) : Step → List Source
  | .netmap => .netmap :: .candidates ::
      (nodes x).flatMap fun n => [.balance .gas n.key.account, .deposit n.key.account]
  | .innerRing => .innerRing ::
      ((x.answer .innerRing).getD []).map fun k => .balance .gas k.account
  | .proxy => job.proxy.toList.map (.balance .gas)
  | .supply => [.supply job.balance]
  | .alphabet => .alphabet :: ((x.answer .alphabet).getD []).map fun k => .deposit k.account
  | .divergence => [.alphabet, .mainAlphabet]
  | .containerTotal => [.containerTotal]
  | .containerUsage => [.containerUsages]
  | .heights => [.heights]
  | .states => .heights :: (lowest? (x.answer .heights)).toList.map .roots
  | .tokens => job.tokens.flatMap (·.sources)

/-- The codes that a step looks up in the table of locations. -/
def codes (x : Fetchers) : Step → List String
  | .netmap => (nodes x).filterMap (·.locode)
  | _ => []

/-- Two iterations bring the same for a step. -/
def Agree (job : FsChainJob) (x y : Fetchers) (step : Step) : Prop :=
  (∀ s ∈ step.sources job x, x.answer s = y.answer s) ∧
    ∀ code ∈ step.codes x, x.locate code = y.locate code

/-- The leading question of a step goes unanswered. -/
def Unanswered (job : FsChainJob) (x : Fetchers) : Step → Prop
  | .netmap => x.answer .netmap = none ∨ x.answer .candidates = none
  | .innerRing => x.answer .innerRing = none
  | .proxy => ∀ proxy ∈ job.proxy, x.answer (.balance .gas proxy) = none
  | .supply => x.answer (.supply job.balance) = none
  | .alphabet => x.answer .alphabet = none
  | .divergence => x.answer .alphabet = none ∨ x.answer .mainAlphabet = none
  | .containerTotal => x.answer .containerTotal = none
  | .containerUsage => x.answer .containerUsages = none
  | .heights => x.answer .heights = []
  | .states => ∀ height ∈ lowest? (x.answer .heights), x.answer (.roots height) = []
  | .tokens => ∀ t ∈ job.tokens, ∀ s ∈ t.sources, x.answer s = s.unanswered

end Step

section Sources

variable (job : FsChainJob) {x y : Fetchers}

/-- The place of a node depends on what its code stands for. -/
private theorem placeOf_eq (x : Fetchers) (n : Node) :
    placeOf { job with geo := x.geo } n = n.locode.bind fun code => (x.locate code).map fun p =>
      (p.location, DecimalText.fixed 4 p.longitude, DecimalText.fixed 4 p.latitude) := by
  -- Without locations no code is found.
  cases hgeo : x.geo with
  | none =>
    have hnowhere (code : String) : x.locate code = none := by rw [Fetchers.locate, hgeo]; rfl
    cases n.locode with
    | none => rfl
    | some code => rw [Option.bind_some, hnowhere]; rfl
  | some geo =>
    have hfind (code : String) : x.locate code = (geo.find code).toOption := by
      rw [Fetchers.locate, hgeo]
      rfl
    cases hcode : n.locode with
    | none => simp only [placeOf, hcode]; rfl
    | some code =>
      rw [Option.bind_some, hfind, Option.map_eq_bind]
      simp only [placeOf, hcode]
      rfl

/-- The place of a node depends on the position of its code only. -/
private theorem placeOf_congr {n : Node}
    (h : ∀ code ∈ n.locode, x.locate code = y.locate code) :
    placeOf { job with geo := x.geo } n = placeOf { job with geo := y.geo } n := by
  rw [placeOf_eq, placeOf_eq]
  cases hcode : n.locode with
  | none => rfl
  | some code => rw [Option.bind_some, Option.bind_some, h code (by rw [hcode]; rfl)]

namespace Step

variable {step : Step}

/-- What is reported of a node is made from its own account and code, which the step on the network map
asks for. -/
private theorem report_congr (h : netmap.Agree job x y) {n : Node} (hn : n ∈ nodes x) :
    job.report x n = job.report y n := by
  obtain ⟨hsources, hcodes⟩ := h
  have hdetail : ∀ s ∈ [Source.balance .gas n.key.account, .deposit n.key.account],
      x.answer s = y.answer s := fun s hs =>
    hsources s (List.mem_cons_of_mem _ (List.mem_cons_of_mem _ (List.mem_flatMap.mpr ⟨n, hn, hs⟩)))
  have hplace : placeOf { job with geo := x.geo } n = placeOf { job with geo := y.geo } n :=
    placeOf_congr job fun code hcode => hcodes code (List.mem_filterMap.mpr ⟨n, hn, hcode⟩)
  rw [report, report, hdetail _ List.mem_cons_self,
    hdetail _ (List.mem_cons_of_mem _ List.mem_cons_self), hplace]

/-- The step on the network map reads its sources only. -/
private theorem updates_netmap_congr (h : netmap.Agree job x y) (listing : Listing) :
    netmap.updates job x listing = netmap.updates job y listing := by
  have hnetmap : x.answer .netmap = y.answer .netmap := h.1 _ (by simp [sources])
  have hcandidates : x.answer .candidates = y.answer .candidates := h.1 _ (by simp [sources])
  rw [updates, updates, ← hnetmap, ← hcandidates]
  cases hread : x.answer .netmap with
  | none => rfl
  | some nm =>
    have hnodes : nodes x = nm.nodes := by rw [nodes, hread]; rfl
    rw [Option.elim_some, Option.elim_some, ← hnodes,
      List.map_congr_left fun n hn => report_congr job h hn]

/-- A step reads its sources only. -/
theorem updates_congr (h : step.Agree job x y) (listing : Listing) :
    step.updates job x listing = step.updates job y listing := by
  have hsources := h.1
  cases step with
  | netmap => exact updates_netmap_congr job h listing
  | innerRing =>
    rw [updates, updates, ← hsources .innerRing (by simp [sources])]
    exact elim_map_congr (fun _ found => replacing .innerRingBalance
        (listing.order .innerRingBalance (Table.latest (keyEntries found))))
      fun k hk => hsources _ (List.mem_cons_of_mem _ (List.mem_map_of_mem hk))
  | proxy =>
    rw [updates, updates]
    cases hproxy : job.proxy with
    | none => rfl
    | some proxy =>
      rw [Option.elim_some, Option.elim_some, hsources _ (by simp [sources, hproxy])]
  | supply => rw [updates, updates, hsources _ (by simp [sources])]
  | alphabet =>
    rw [updates, updates, ← hsources .alphabet (by simp [sources])]
    exact elim_map_congr (fun keys found => replacing .alphabetPublicKey (alphabetEntries keys) ++
        replacing .alphabetDeposit
          (listing.order .alphabetDeposit (Table.latest (keyEntries found))))
      fun k hk => hsources _ (List.mem_cons_of_mem _ (List.mem_map_of_mem hk))
  | divergence =>
    rw [updates, updates, hsources .alphabet (by simp [sources]),
      hsources .mainAlphabet (by simp [sources])]
  | containerTotal => rw [updates, updates, hsources _ (by simp [sources])]
  | containerUsage => rw [updates, updates, hsources _ (by simp [sources])]
  | heights => rw [updates, updates, hsources _ (by simp [sources])]
  | states =>
    have hheights : x.answer .heights = y.answer .heights := hsources _ (by simp [sources])
    rw [updates, updates, ← hheights]
    cases hlowest : lowest? (x.answer .heights) with
    | none => rfl
    | some height =>
      rw [Option.elim_some, Option.elim_some, hsources _ (by simp [sources, hlowest])]
  | tokens =>
    refine List.flatMap_congr fun t ht => t.updates_congr fun s hs => ?_
    exact hsources s (List.mem_flatMap.mpr ⟨t, ht, hs⟩)

/-- A step whose leading question goes unanswered changes nothing. -/
theorem updates_of_unanswered (h : step.Unanswered job x) (listing : Listing) :
    step.updates job x listing = [] := by
  cases step with
  | netmap =>
    rw [updates]
    rcases h with hnetmap | hcandidates
    · rw [hnetmap]
      rfl
    -- Without the candidates nothing is published, whatever the network map is.
    · rw [hcandidates]
      cases x.answer .netmap <;> rfl
  | innerRing => rw [updates, show x.answer .innerRing = none from h]; rfl
  | proxy =>
    rw [updates]
    cases hproxy : job.proxy with
    | none => rfl
    | some proxy => rw [Option.elim_some, h proxy hproxy]; rfl
  | supply => rw [updates, show x.answer (.supply job.balance) = none from h]; rfl
  | alphabet => rw [updates, show x.answer .alphabet = none from h]; rfl
  | divergence =>
    rw [updates]
    split
    · rcases h with halphabet | hmain
      · rw [halphabet]
        rfl
      · rw [hmain]
        cases x.answer .alphabet <;> rfl
    · rfl
  | containerTotal => rw [updates, show x.answer .containerTotal = none from h]; rfl
  | containerUsage => rw [updates, show x.answer .containerUsages = none from h]; rfl
  | heights => rw [updates, show x.answer .heights = [] from h]; rfl
  | states =>
    rw [updates]
    cases hlowest : lowest? (x.answer .heights) with
    | none => rfl
    | some height => rw [Option.elim_some, h height hlowest]; rfl
  | tokens =>
    exact List.flatMap_eq_nil_iff.mpr fun t ht => t.updates_of_unanswered (h t ht)

end Step

end Sources

end FsChainJob

/-! ## The scrape of the main chain -/

namespace MainChainJob

namespace Step

/-- The questions that a step asks, where details are asked for of what was read before. -/
def sources (job : MainChainJob) (x : Fetchers) : Step → List Source
  | .alphabet => .alphabet ::
      ((x.answer .alphabet).getD []).map fun k => .balance .gas k.account
  | .supply => job.neofs.toList.map (.balance .gas)
  | .tokens => job.tokens.flatMap (·.sources)

/-- Two iterations bring the same for a step. -/
def Agree (job : MainChainJob) (x y : Fetchers) (step : Step) : Prop :=
  ∀ s ∈ step.sources job x, x.answer s = y.answer s

/-- The leading question of a step goes unanswered. -/
def Unanswered (job : MainChainJob) (x : Fetchers) : Step → Prop
  | .alphabet => x.answer .alphabet = none
  | .supply => ∀ neofs ∈ job.neofs, x.answer (.balance .gas neofs) = none
  | .tokens => ∀ t ∈ job.tokens, ∀ s ∈ t.sources, x.answer s = s.unanswered

variable (job : MainChainJob) {x y : Fetchers} {step : Step}

/-- A step reads its sources only. -/
theorem updates_congr (h : step.Agree job x y) (listing : Listing) :
    step.updates job x listing = step.updates job y listing := by
  cases step with
  | alphabet =>
    rw [updates, updates, ← h .alphabet (by simp [sources])]
    exact elim_map_congr (fun keys found => replacing .alphabetPublicKey (alphabetEntries keys) ++
        replacing .alphabetBalance
          (listing.order .alphabetBalance (Table.latest (keyEntries found))))
      fun k hk => h _ (List.mem_cons_of_mem _ (List.mem_map_of_mem hk))
  | supply =>
    rw [updates, updates]
    cases hneofs : job.neofs with
    | none => rfl
    | some neofs => rw [Option.elim_some, Option.elim_some, h _ (by simp [sources, hneofs])]
  | tokens =>
    refine List.flatMap_congr fun t ht => t.updates_congr fun s hs => ?_
    exact h s (List.mem_flatMap.mpr ⟨t, ht, hs⟩)

/-- A step whose leading question goes unanswered changes nothing. -/
theorem updates_of_unanswered (h : step.Unanswered job x) (listing : Listing) :
    step.updates job x listing = [] := by
  cases step with
  | alphabet => rw [updates, show x.answer .alphabet = none from h]; rfl
  | supply =>
    rw [updates]
    cases hneofs : job.neofs with
    | none => rfl
    | some neofs => rw [Option.elim_some, h neofs hneofs]; rfl
  | tokens =>
    exact List.flatMap_eq_nil_iff.mpr fun t ht => t.updates_of_unanswered (h t ht)

end Step

end MainChainJob

/-! ## Families off hash tables -/

/-- The families that are published off hash tables. -/
def Family.tabled : List Family :=
  [.netmap, .innerRingBalance, .alphabetDeposit, .alphabetBalance]

/-- The labels that changes set in a family. -/
def Update.Sets (f : Family) (us : List Update) (labels : List String) : Prop :=
  ∃ value, .set f labels value ∈ us

/-- Two iterations make the same of a family, as far as the orders of hash tables go. -/
structure Alike (f : Family) (published : List String → Prop) (one two : Listing → List Sample) :
    Prop where
  /-- Where their tables come out in the same orders, the samples are the same. -/
  same : ∀ l, one l = two l
  /-- For most families these orders do not matter. -/
  fixed : f ∉ Family.tabled → ∀ l l', one l = two l'
  /-- The same keys are shown whatever the orders are. -/
  keys : ∀ l l', ((one l).map (·.key)).Perm ((two l').map (·.key))
  /-- So are the samples, exactly if keys tell what is published apart. -/
  perm_iff : f ∈ Family.tabled →
    ((∀ l l', (one l).Perm (two l')) ↔ KeyedApart published)

/-- How changes of a family depend on the orders of hash tables: not at all, or they replace it by
entries with labels of their own. -/
inductive FromTable (f : Family) (changes : Listing → List Update) : Prop
  | fixed (us : List Update) (hnone : f ∈ Family.tabled → us = [])
      (h : ∀ l, Update.about f (changes l) = us)
  | listed (entries : List Entry) (hf : f ∈ Family.tabled) (hnodup : (entries.map (·.1)).Nodup)
      (h : ∀ l, Update.about f (changes l) = replacing f (l.order f entries))

/-- Some labels come first. -/
def Listing.first (labels : List String) : Listing where
  order _ entries :=
    entries.filter (fun e => e.1 = labels) ++ entries.filter fun e => !decide (e.1 = labels)
  perm _ entries := List.filter_append_perm _ entries

section Tables

variable {f : Family} {changes : Listing → List Update} {entries : List Entry}
  {labels : List String} {us vs : List Update}

/-- Whether labels are set in a family is told by the changes of the family. -/
private theorem sets_about :
    Update.Sets f (Update.about f us) labels ↔ Update.Sets f us labels := by
  simp [Update.Sets, Update.about, Update.family]

/-- Changes that are the same for a family set the same labels in it. -/
private theorem sets_congr (h : Update.about f us = Update.about f vs) :
    Update.Sets f us = Update.Sets f vs := by
  funext labels
  rw [← sets_about, h, sets_about]

/-- Entries that replace a family set their labels. -/
private theorem sets_replacing :
    Update.Sets f (replacing f entries) labels ↔ labels ∈ entries.map (·.1) := by
  simp [Update.Sets, replacing]

/-- The labels that come first are shown. -/
private theorem mem_collect_first (h : labels ∈ entries.map (·.1)) :
    labels ∈ (Sample.collect f ((Listing.first labels).order f entries)).map (·.labels) := by
  obtain ⟨e, he, rfl⟩ := List.mem_map.mp h
  have hmem : e ∈ entries.filter (fun e' => e'.1 = e.1) := by simpa using he
  obtain ⟨first, rest, hsplit⟩ := List.exists_cons_of_ne_nil (List.ne_nil_of_mem hmem)
  -- The series is created by the entry listed first, and that one has the labels asked for.
  have hfirst : first.1 = e.1 := by
    have hin : first ∈ entries.filter (fun e' => e'.1 = e.1) := hsplit ▸ List.mem_cons_self
    simpa using (List.mem_filter.mp hin).2
  have horder : (Listing.first e.1).order f entries =
      [first] ++ (rest ++ entries.filter fun e' => !decide (e'.1 = e.1)) := by
    show entries.filter _ ++ _ = _
    rw [hsplit]
    rfl
  obtain ⟨added, hadded, -⟩ := Sample.exists_labels_collect_append f [first]
    (rest ++ entries.filter fun e' => !decide (e'.1 = e.1))
  rw [horder, hadded, ← hfirst]
  exact List.mem_append_left _ List.mem_cons_self

/-- Entries are shown alike in every order exactly if keys tell their labels apart. -/
private theorem perm_collect_iff (hnodup : (entries.map (·.1)).Nodup) :
    (∀ l l' : Listing, (Sample.collect f (l.order f entries)).Perm
        (Sample.collect f (l'.order f entries))) ↔ KeyedApart (· ∈ entries.map (·.1)) := by
  constructor
  -- What comes first is shown, and so is everything in all orders; but no key is shown twice.
  · intro hperm p q hp hq hkey
    have hmine := mem_collect_first (f := f) hp
    have hother : p ∈ (Sample.collect f ((Listing.first q).order f entries)).map (·.labels) :=
      ((hperm (.first p) (.first q)).map _).mem_iff.mp hmine
    obtain ⟨s, hs, rfl⟩ := List.mem_map.mp hother
    obtain ⟨t, ht, rfl⟩ := List.mem_map.mp (mem_collect_first (f := f) hq)
    rw [List.inj_on_of_nodup_map (Sample.nodup_key_collect ..) hs ht hkey]
  · intro hapart l l'
    refine Sample.perm_collect f ((l.perm f entries).trans (l'.perm f entries).symm) ?_ ?_
    · exact ((l.perm f entries).map _).nodup_iff.mpr hnodup
    · intro p q hp hq
      exact hapart p q (l.mem_order.mp hp) (l.mem_order.mp hq)

/-- What the order of a hash table can make of a family. -/
theorem Alike.of_fromTable (h : FromTable f changes) (samples : List Sample) :
    let shown (l : Listing) := Metrics.refill (Update.about f (changes l)) samples
    Alike f (Update.Sets f (changes .asEntered)) shown shown := by
  intro shown
  cases h with
  -- No order to choose: every listing publishes the same.
  | fixed us hnone h =>
    have hshown (l l' : Listing) : shown l = shown l' := by simp only [shown, h]
    refine ⟨fun _ => rfl, fun _ => hshown, fun l l' => by rw [hshown l l'], fun hf => ?_⟩
    refine iff_of_true (fun l l' => by rw [hshown l l']) fun p _ hp => ?_
    rw [← sets_about, h, hnone hf] at hp
    obtain ⟨_, hmem⟩ := hp
    cases hmem
  -- The entries of a table, in an order that the listing chooses.
  | listed entries hf hnodup h =>
    have hshown (l : Listing) : shown l = Sample.collect f (l.order f entries) := by
      simp only [shown, h, Sample.refill_replacing]
    have hpublished :
        Update.Sets f (changes .asEntered) = fun labels => labels ∈ entries.map (·.1) := by
      funext labels
      rw [← sets_about, h, sets_replacing]
      rfl
    refine ⟨fun _ => rfl, fun hnot => absurd hf hnot, fun l l' => ?_, fun _ => ?_⟩
    · rw [hshown, hshown]
      exact Sample.perm_map_key_collect f ((l.perm f entries).trans (l'.perm f entries).symm)
    · simp only [hshown, hpublished]
      exact perm_collect_iff hnodup

end Tables

/-- An answer that is missing leaves nothing to publish. -/
private theorem fromTable_elim {α : Type} {f : Family} {x : Option α}
    {changes : Listing → α → List Update} (h : ∀ v, FromTable f fun l => changes l v) :
    FromTable f fun l => x.elim [] (changes l) := by
  cases x with
  | none => exact .fixed [] (fun _ => rfl) fun _ => rfl
  | some v => exact h v

/-- Changes may not depend on any order. -/
private theorem FromTable.of_const {f : Family} {changes : Listing → List Update}
    (h : f ∉ Family.tabled) (hsame : ∀ l, changes l = changes .asEntered) : FromTable f changes :=
  .fixed _ (fun htabled => absurd htabled h) fun l => by rw [hsame l]

/-- What was found for keys comes out of a table. -/
private theorem fromTable_keys {f : Family} (hf : f ∈ Family.tabled)
    (found : List (PublicKey × Option Float)) :
    FromTable f fun l => replacing f (l.order f (Table.latest (keyEntries found))) :=
  .listed _ hf (Table.nodup_latest _) fun l => by rw [Update.about_replacing, if_pos rfl]

/-- Changes of another family do not count. -/
private theorem FromTable.append_left {f : Family} {first changes : Listing → List Update}
    (h : FromTable f changes) (hfirst : ∀ l, Update.about f (first l) = []) :
    FromTable f fun l => first l ++ changes l := by
  have habout (l : Listing) : Update.about f (first l ++ changes l) = Update.about f (changes l) := by
    rw [Update.about_append, hfirst, List.nil_append]
  cases h with
  | fixed us hnone h => exact .fixed us hnone fun l => (habout l).trans (h l)
  | listed entries hf hnodup h => exact .listed entries hf hnodup fun l => (habout l).trans (h l)

namespace FsChainJob

variable (job : FsChainJob) (x : Fetchers) {f : Family}

/-- Of the families of the network map only the places come out of a table. -/
private theorem fromTable_netmapUpdates (nm : Netmap) (candidates : List Candidate)
    (reports : List NodeReport) (hf : f ∈ netmapFamilies) :
    FromTable f fun l => netmapUpdates l nm candidates reports := by
  -- Of the families of the network map only the places come from a table.
  by_cases hplaces : f = .netmap
  · subst hplaces
    refine .listed _ (by decide) (nodup_placeEntries reports) fun l => ?_
    obtain ⟨-, -, -, -, -, hplaces, -⟩ := about_netmapUpdates l nm candidates reports
    exact hplaces
  · refine .fixed (Update.about f (netmapUpdates .asEntered nm candidates reports)) ?_ fun l => ?_
    · have hother : ∀ g ∈ netmapFamilies, g ≠ .netmap → g ∉ Family.tabled := by decide
      exact fun htabled => absurd htabled (hother f hf hplaces)
    · simp only [netmapUpdates, Update.about_append, Update.about_replacing,
        if_neg (Ne.symm hplaces)]

/-- How the changes of a step depend on the orders of hash tables. -/
private theorem Step.fromTable (step : Step) (hf : f ∈ step.families) :
    FromTable f fun l => step.updates job x l := by
  cases step with
  | netmap =>
    exact fromTable_elim fun nm => fromTable_elim fun cs => fromTable_netmapUpdates nm cs _ hf
  | innerRing =>
    rw [List.mem_singleton.mp hf]
    exact fromTable_elim fun keys => fromTable_keys (by decide) _
  | alphabet =>
    simp only [families, List.mem_cons, List.not_mem_nil, or_false] at hf
    rcases hf with rfl | rfl
    -- The keys come from a list and the deposits from a table of accounts.
    · refine fromTable_elim fun keys => .fixed (replacing .alphabetPublicKey (alphabetEntries keys))
        (fun h => absurd h (by decide)) fun l => ?_
      simp [Update.about_append, Update.about_replacing]
    · refine fromTable_elim fun keys => (fromTable_keys (by decide) _).append_left fun l => ?_
      simp [Update.about_replacing]
  | proxy | supply | divergence | containerTotal | containerUsage | heights | states | tokens =>
    refine .of_const ?_ fun _ => rfl
    revert f
    decide

end FsChainJob

namespace MainChainJob

variable (job : MainChainJob) (x : Fetchers) {f : Family}

/-- How the changes of a step depend on the orders of hash tables. -/
private theorem Step.fromTable (step : Step) (hf : f ∈ step.families) :
    FromTable f fun l => step.updates job x l := by
  cases step with
  | alphabet =>
    simp only [families, List.mem_cons, List.not_mem_nil, or_false] at hf
    rcases hf with rfl | rfl
    · refine fromTable_elim fun keys => .fixed (replacing .alphabetPublicKey (alphabetEntries keys))
        (fun h => absurd h (by decide)) fun l => ?_
      simp [Update.about_append, Update.about_replacing]
    · refine fromTable_elim fun keys => (fromTable_keys (by decide) _).append_left fun l => ?_
      simp [Update.about_replacing]
  | supply | tokens =>
    refine .of_const ?_ fun _ => rfl
    revert f
    decide

end MainChainJob

/-! ## Both scrapes -/

namespace Metrics

/-- Two iterations that agree on the sources of a step make the same of its families, as far as the
orders of hash tables go, whatever the other sources bring; and a step whose leading question goes
unanswered leaves its families as they were. -/
theorem steps_independent (m : Metrics) :
    (∀ (job : FsChainJob) (step : FsChainJob.Step) (x y : Fetchers), ∀ f ∈ step.families,
      (step.Agree job x y → Alike f (Update.Sets f (job.changes x .asEntered))
        (fun l => (job.process x l m).samplesOf f) fun l => (job.process y l m).samplesOf f) ∧
      (step.Unanswered job x → ∀ l, (job.process x l m).samplesOf f = m.samplesOf f)) ∧
    ∀ (job : MainChainJob) (step : MainChainJob.Step) (x y : Fetchers), ∀ f ∈ step.families,
      (step.Agree job x y → Alike f (Update.Sets f (job.changes x .asEntered))
        (fun l => (job.process x l m).samplesOf f) fun l => (job.process y l m).samplesOf f) ∧
      (step.Unanswered job x → ∀ l, (job.process x l m).samplesOf f = m.samplesOf f) := by
  refine ⟨fun job step x y f hf => ⟨fun hagree => ?_, fun hnone l => ?_⟩,
    fun job step x y f hf => ⟨fun hagree => ?_, fun hnone l => ?_⟩⟩
  -- What the family shows is a matter of its own step's updates, which the sources determine.
  · simp only [job.samplesOf_process _ _ m step hf,
      ← FsChainJob.Step.updates_congr job hagree, sets_congr (job.about_changes x .asEntered hf)]
    exact .of_fromTable (FsChainJob.Step.fromTable job x step hf) _
  · rw [job.samplesOf_process x l m step hf, FsChainJob.Step.updates_of_unanswered job hnone]
    rfl
  · simp only [job.samplesOf_process _ _ m step hf,
      ← MainChainJob.Step.updates_congr job hagree, sets_congr (job.about_changes x .asEntered hf)]
    exact .of_fromTable (MainChainJob.Step.fromTable job x step hf) _
  · rw [job.samplesOf_process x l m step hf, MainChainJob.Step.updates_of_unanswered job hnone]
    rfl

end Metrics

/-- An iteration that hears of the number of containers only. -/
def containersOnly : Fetchers where
  answer
    | .containerTotal => some 7
    | s => s.unanswered
  geo := none

/-- An iteration that hears of heights, too, and of the alphabet. -/
def containersAndHeights : Fetchers where
  answer
    | .containerTotal => some 7
    | .heights => [("a", 3)]
    | .alphabet => some []
    | s => s.unanswered
  geo := none

/-- A scrape of the storage network's chain that compares alphabets. -/
def comparingFsChain : FsChainJob :=
  ⟨.gas, none, true, none, []⟩

/-- A scrape of the main chain with a contract to look up. -/
def suppliedMainChain : MainChainJob :=
  ⟨some .gas, []⟩

/-- The number of containers is the same in both iterations, whatever the orders of their tables, and
what only one of them hears of is as before in the other. -/
theorem Metrics.steps_independent_of_heights :
    (comparingFsChain.process containersOnly .asEntered (empty .fsChain)).samplesOf .containers =
        (comparingFsChain.process containersAndHeights .reversed
          (empty .fsChain)).samplesOf .containers ∧
      (comparingFsChain.process containersOnly .reversed (empty .fsChain)).samplesOf .chainHeight =
        (empty .fsChain).samplesOf .chainHeight ∧
      (suppliedMainChain.process containersOnly .asEntered
          (empty .mainChain)).samplesOf .mainChainSupply =
        (suppliedMainChain.process containersAndHeights .reversed
          (empty .mainChain)).samplesOf .mainChainSupply ∧
      (suppliedMainChain.process containersOnly .reversed
          (empty .mainChain)).samplesOf .alphabetPublicKey =
        (empty .mainChain).samplesOf .alphabetPublicKey := by
  have hcontainers : FsChainJob.Step.containerTotal.Agree comparingFsChain containersOnly
      containersAndHeights :=
    ⟨by simp [FsChainJob.Step.sources, containersOnly, containersAndHeights],
      by simp [FsChainJob.Step.codes]⟩
  have hheights : FsChainJob.Step.heights.Unanswered comparingFsChain containersOnly := rfl
  have hsupply : MainChainJob.Step.supply.Agree suppliedMainChain containersOnly
      containersAndHeights := by
    intro s hs
    rw [List.mem_singleton.mp hs]
    rfl
  have halphabet : MainChainJob.Step.alphabet.Unanswered suppliedMainChain containersOnly := rfl
  exact ⟨(((steps_independent _).1 _ _ _ _ _ (by decide)).1 hcontainers).fixed (by decide) _ _,
    ((steps_independent _).1 _ _ _ containersOnly _ (by decide)).2 hheights _,
    (((steps_independent _).2 _ _ _ _ _ (by decide)).1 hsupply).fixed (by decide) _ _,
    ((steps_independent _).2 _ _ _ containersOnly _ (by decide)).2 halphabet _⟩

/-- An iteration that hears of two nodes at places with one text. -/
def neighbourhoodFetchers : Fetchers where
  answer
    | .netmap => some ⟨24, neighbours⟩
    | .candidates => some []
    | s => s.unanswered
  geo := some neighbourhood

/-- The same answers show one place or the other, as the table of places happens to come out. -/
theorem Metrics.places_by_order :
    FsChainJob.Step.netmap.Agree neighbourhoodJob neighbourhoodFetchers neighbourhoodFetchers ∧
      (neighbourhoodJob.process neighbourhoodFetchers .asEntered
        (empty .fsChain)).labelsOf .netmap = [["Berlin1", "2.0000", "50.0000"]] ∧
      (neighbourhoodJob.process neighbourhoodFetchers .reversed
        (empty .fsChain)).labelsOf .netmap = [["Berlin", "12.0000", "50.0000"]] := by
  refine ⟨⟨fun _ _ => rfl, fun _ _ => rfl⟩, ?_, ?_⟩
  · decide +kernel
  · decide +kernel

end ChainGauge
