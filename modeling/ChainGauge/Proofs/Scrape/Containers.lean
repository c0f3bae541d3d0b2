import ChainGauge.Job.Sources
import ChainGauge.Proofs.Contract.Reports
import ChainGauge.Proofs.Scrape.Round
import Mathlib.Data.List.Dedup

/-!
# Containers as they are shown

A scrape is followed down to the nodes: everyone who is reached replies as given, and what a question
of the scrape brings is what its reader hears (`Sources.heard_run`). The step of the containers then
shows the containers that the contract lists, with what was reported of them last, each in a series of
its own exactly if the keys of their identifiers tell them apart (`Sources.containers_apart`). There are
two identifiers that have one key (`Sources.containers_run_together`).
-/

namespace ChainGauge

open ContainerContract (Report Reports Lists usages)

/-! ## Scrapes of nodes whose replies are given -/

/-- Who answers a dialogue may hold dialogues for it. -/
private theorem Dialogue.heard_hold {Q Q' : Type} {A : Q → Type} {A' : Q' → Type} {α : Type}
    (answer : (q : Q') → A' q) (reach : (q : Q) → Dialogue Q' A' (A q)) (d : Dialogue Q A α) :
    (d.hold reach).heard answer = d.heard fun q => (reach q).heard answer := by
  induction d with
  | done a => rfl
  | ask q next ih =>
    have hstep : ((Dialogue.ask q next).hold reach).heard answer =
        ((reach q).andThen fun x => (next x).hold reach).heard answer := rfl
    rw [hstep, heard_andThen, ih]
    rfl

namespace Sources

variable (s : Sources) (reply : (r : Reach) → r.Answer)

/-- What a question of a scrape brings where everyone who is reached replies as given. -/
def bring (source : Source) : StateM Token.Decimals source.Answer :=
  fun known => (s.answer source known).heard reply

/-- The registry after a scrape where everyone who is reached replies as given. -/
def scraped (scrape : Scrape) (known : Token.Decimals) (m : Metrics) : Metrics :=
  (((scrape.run s.answer m).run known).heard reply).1

/-- To hold a scrape with those who are reached is to run it with what its questions bring. -/
theorem heard_run (scrape : Scrape) (known : Token.Decimals) (m : Metrics) :
    ((scrape.run s.answer m).run known).heard reply = (scrape.run (s.bring reply) m).run known := by
  -- A question may leave other decimals behind, with which the rest of the scrape goes on.
  induction scrape generalizing known m with
  | done => rfl
  | ask source next ih =>
    have hstep : (((Scrape.ask source next).run s.answer m).run known).heard reply =
        ((s.answer source known).andThen fun (x, known) =>
          ((next x).run s.answer m).run known).heard reply := rfl
    rw [hstep, Dialogue.heard_andThen, ih]
    rfl
  | publish us next ih => exact ih known (m.applyAll us)

/-- A dialogue with the watched chain brings what is heard from it. -/
private theorem heard_watched {α : Type} (c : Chain α) (known : Token.Decimals) :
    ((watched c).run known).heard reply =
      ((c.heard fun q => reply (.watched q)).toOption, known) := by
  have hstep : ((watched c).run known).heard reply =
      ((c.run.hold fun q => Dialogue.once (Reach.watched q)).andThen fun r =>
        .done (r.toOption, known)).heard reply := rfl
  rw [hstep, Dialogue.heard_andThen, Dialogue.heard_hold]
  rfl

end Sources

/-! ## The step of the containers -/

/-- The step of the containers: their number and then their usage. -/
def FsChainJob.containerStep : Scrape :=
  Scrape.inTurn [containerTotalStep, containerUsageStep]

/-- A scrape behind another one goes on with the registry that the first one leaves. -/
private theorem Scrape.run_andThen {σ : Type} (answer : (source : Source) → StateM σ source.Answer)
    (s t : Scrape) (state : σ) (m : Metrics) :
    ((s.andThen t).run answer m).run state =
      (t.run answer ((s.run answer m).run state).1).run ((s.run answer m).run state).2 := by
  induction s generalizing state m with
  | done => rfl
  | ask source next ih => exact ih ((answer source).run state).1 ((answer source).run state).2 m
  | publish us next ih => exact ih state (m.applyAll us)

namespace FsChainJob

/-- The changes that publish the usage come last. -/
private theorem exists_run_containerStep {σ : Type}
    (answer : (source : Source) → StateM σ source.Answer)
    {us : List ContainerUsage} (h : ∀ state, ((answer .containerUsages).run state).1 = some us)
    (state : σ) (m : Metrics) :
    ∃ old : Metrics, ((containerStep.run answer m).run state).1 = old.applyAll (usageUpdates us) := by
  have husage (state : σ) (m : Metrics) :
      (((containerUsageStep.andThen .done).run answer m).run state).1 =
        m.applyAll (usageUpdates us) := by
    have hstep : (((containerUsageStep.andThen .done).run answer m).run state).1 =
        ((((Scrape.whenSome ((answer .containerUsages).run state).1 fun us =>
          Scrape.put (usageUpdates us)).andThen .done).run answer m).run
            ((answer .containerUsages).run state).2).1 := rfl
    rw [hstep, h]
    rfl
  -- Whatever their number was and whether it was published, the usage is published behind it.
  have hturn : containerStep =
      containerTotalStep.andThen (containerUsageStep.andThen .done) := rfl
  rw [hturn, Scrape.run_andThen, husage]
  exact ⟨_, rfl⟩

end FsChainJob

/-! ## What is shown of reports -/

/-- The key of the series of a report. -/
def ContainerContract.Report.key (r : Report) : UInt64 :=
  seriesKey [Base58.encode r.id]

/-- A family shows an amount of the containers that were reported. -/
structure Metrics.ShowsReports (m : Metrics) (f : Family) (amount : Report → Int)
    (reports : List Report) : Prop where
  shows : m.Shows f fun labels => ∃ r ∈ reports, labels = [Base58.encode r.id]
  /-- Each of them has one series exactly if keys tell them apart. -/
  series : (m.labelsOf f).Perm ((reports.map (·.id)).dedup.map fun id => [Base58.encode id]) ↔
    ∀ r ∈ reports, ∀ r' ∈ reports, r.key = r'.key → r.id = r'.id
  /-- Under a key the amount is shown that was reported last, which is not below zero. -/
  last : ∀ before r after, reports = before ++ r :: after → (∀ r' ∈ after, r'.key ≠ r.key) →
    m.Tells f [Base58.encode r.id] (amount r).toNat

section Shown

variable {m : Metrics} {f : Family} {amount : Report → Int} {reports : List Report}

/-- The entry for a report. -/
def ContainerContract.Report.entry (amount : Report → Int) (r : Report) : Entry :=
  ([Base58.encode r.id], Binary64.nearestNat (amount r).toNat)

/-- Seen from the end, the first entry with a key is that of the last report with it. -/
private theorem find?_entries (amount : Report → Int) (before : List Report) {r : Report}
    {after : List Report} (hlater : ∀ r' ∈ after, r'.key ≠ r.key) :
    ((before ++ r :: after).map (Report.entry amount)).reverse.find? (seriesKey ·.1 = r.key) =
      some (r.entry amount) := by
  -- No later report has this key, so the search from behind comes to this one.
  have hskip : (after.map (Report.entry amount)).reverse.find? (seriesKey ·.1 = r.key) = none := by
    rw [List.find?_eq_none]
    intro e he
    obtain ⟨r', hr', rfl⟩ := List.mem_map.mp (List.mem_reverse.mp he)
    exact fun hkey => hlater r' hr' (of_decide_eq_true hkey)
  rw [List.map_append, List.map_cons, List.reverse_append, List.reverse_cons, List.append_assoc,
    List.find?_append, hskip, Option.none_or, List.singleton_append]
  exact List.find?_cons_of_pos (decide_eq_true rfl)

/-- Samples made of reports show them. -/
private theorem Metrics.showsReports_of_samples
    (h : m.samplesOf f = Sample.collect f (reports.map (Report.entry amount))) :
    m.ShowsReports f amount reports := by
  have hshows : m.Shows f fun labels => ∃ r ∈ reports, labels = [Base58.encode r.id] :=
    shows_of_samples h fun labels => by simp [Report.entry, eq_comm]
  have hinj : Function.Injective fun id : Bytes => [Base58.encode id] :=
    fun x y hxy => Base58.encode_injective (List.singleton_inj.mp hxy)
  refine ⟨hshows, ?_, fun before r after hsplit hlater => ?_⟩
  -- Base58 is injective, so exact labels are a matter of the ids and their keys.
  · have hlisted (labels : List String) :
        labels ∈ (reports.map (·.id)).dedup.map (fun id => [Base58.encode id]) ↔
          ∃ r ∈ reports, labels = [Base58.encode r.id] := by
      simp [eq_comm]
    rw [List.perm_ext_iff_of_nodup hshows.nodup.of_map ((List.nodup_dedup _).map hinj)]
    simp only [hlisted]
    rw [hshows.exact]
    constructor
    · exact fun hapart r hr r' hr' hkey => hinj (hapart _ _ ⟨r, hr, rfl⟩ ⟨r', hr', rfl⟩ hkey)
    · rintro hids _ _ ⟨r, hr, rfl⟩ ⟨r', hr', rfl⟩ hkey
      rw [hids r hr r' hr' hkey]
  -- The value is written by the last report of its key.
  · have hlast := find?_entries amount before hlater
    rw [← hsplit] at hlast
    refine ⟨_, ?_, Binary64.isNearest_nearestNat _⟩
    rw [value?, h, Sample.find?_collect]
    exact congrArg (Option.map (·.2)) hlast

end Shown

namespace Sources

variable {s : Sources} {reply : (r : Reach) → r.Answer} {reports : List Report}

/-- The entries of usage are those of reports. -/
private theorem entries_usages (reports : List Report) :
    FsChainJob.sizeEntries (reports.map Report.usage) = reports.map (Report.entry (·.size)) ∧
      FsChainJob.objectEntries (reports.map Report.usage) =
        reports.map (Report.entry (·.objects)) := by
  simp [FsChainJob.sizeEntries, FsChainJob.objectEntries, Report.entry, Report.usage,
    Function.comp_def]

/-- The step of the containers shows what was reported. -/
private theorem showsReports_containerStep
    (h : (Chain.heard (fun q => reply (.watched q)) (usages s.containers)) =
      .ok (reports.map Report.usage)) (known : Token.Decimals) (m : Metrics) :
    (s.scraped reply FsChainJob.containerStep known m).ShowsReports .containerSize (·.size) reports ∧
      (s.scraped reply FsChainJob.containerStep known m).ShowsReports .containerObjects (·.objects)
        reports := by
  have hbring (known : Token.Decimals) : ((s.bring reply .containerUsages).run known).1 =
      some (reports.map Report.usage) := by
    have hwatched : ((s.bring reply .containerUsages).run known) =
        ((Chain.heard (fun q => reply (.watched q)) (usages s.containers)).toOption, known) :=
      heard_watched reply (usages s.containers) known
    rw [hwatched, h]
    rfl
  -- Whatever the step has published before it asks for the usages, these two families are refilled
  -- after it.
  obtain ⟨old, hold⟩ := FsChainJob.exists_run_containerStep (s.bring reply) hbring known m
  have hshown : s.scraped reply FsChainJob.containerStep known m =
      old.applyAll (FsChainJob.usageUpdates (reports.map Report.usage)) := by
    rw [scraped, heard_run, hold]
  obtain ⟨hsize, hobjects⟩ := FsChainJob.about_usageUpdates (reports.map Report.usage)
  obtain ⟨hsizes, hcounts⟩ := entries_usages reports
  rw [hshown]
  constructor
  · apply Metrics.showsReports_of_samples
    rw [Metrics.samplesOf_applyAll, hsize, Sample.refill_replacing, hsizes]
  · apply Metrics.showsReports_of_samples
    rw [Metrics.samplesOf_applyAll, hobjects, Sample.refill_replacing, hcounts]

/-- Where the contract lists some items, the usage of all containers is read exactly if each of them is
a report. It then has one record for each item, in their order, and these keep the identifiers apart.
The step of the containers shows them with the sizes and numbers of objects that were reported last, each
in one series exactly if keys tell them apart. -/
theorem containers_apart (s : Sources) (reply : (r : Reach) → r.Answer) (items : List StackItem)
    (h : Lists (fun q => reply (.watched q)) s.containers items) :
    let read := Chain.heard (fun q => reply (.watched q)) (usages s.containers)
    ((∃ us, read = .ok us) ↔ ∀ item ∈ items, ∃ r, Reports item r) ∧
    ∀ us, read = .ok us →
      ∃ reports, List.Forall₂ Reports items reports ∧ us = reports.map Report.usage ∧
        (∀ r ∈ reports, ∀ r' ∈ reports, r.usage.id = r'.usage.id ↔ r.id = r'.id) ∧
        ∀ known m,
          let shown := s.scraped reply FsChainJob.containerStep known m
          shown.ShowsReports .containerSize (·.size) reports ∧
            shown.ShowsReports .containerObjects (·.objects) reports := by
  refine ⟨ContainerContract.exists_heard_usages_iff h, fun us hus => ?_⟩
  obtain ⟨reports, hreports, rfl⟩ := (ContainerContract.heard_usages_eq_ok_iff h).mp hus
  exact ⟨reports, hreports, rfl, fun r _ r' _ => Report.id_usage_inj,
    fun known m => showsReports_containerStep hus known m⟩

end Sources

/-! ## Identifiers that begin with zeros -/

/-- An identifier of zeros. -/
def zeroId : Bytes := List.replicate 32 0

/-- An identifier that begins with zeros and ends in a one. -/
def oneId : Bytes := List.replicate 31 0 ++ [1]

/-- A listing in which the first container is reported twice and the other one has a negative size. -/
def zeroListing : List StackItem :=
  [.struct [.byteString zeroId, .struct [.integer 5, .integer 2]],
    .array [.buffer oneId, .array [.integer (-7), .boolean true]],
    .struct [.byteString zeroId, .struct [.integer 2048, .integer 9], .any]]

/-- A chain with a listing of containers and nothing else. -/
def listingReplies (listing : List StackItem) : (r : Reach) → r.Answer
  | .watched (.traverse ..) => .ok listing
  | .watched _ | .main _ => .error (.shape .summary)
  | .everywhere _ => []

/-- The readers of such a chain. -/
def listingSources : Sources :=
  ⟨⟨.zero, false⟩, .zero, Chain.outcome (.error (.shape .summary))⟩

/-- What the listing reports. -/
def zeroReports : List Report :=
  [⟨zeroId, 5, 2⟩, ⟨oneId, -7, 1⟩, ⟨zeroId, 2048, 9⟩]

/-- The listing reports both containers. -/
private theorem reports_zeroListing : List.Forall₂ Reports zeroListing zeroReports :=
  .cons ⟨_, _, _, .inr rfl, .inl rfl, rfl, _, _, _, .inr rfl, rfl, rfl⟩
    (.cons ⟨_, _, _, .inl rfl, .inr rfl, rfl, _, _, _, .inl rfl, rfl, rfl⟩
      (.cons ⟨_, _, _, .inr rfl, .inl rfl, rfl, _, _, _, .inr rfl, rfl, rfl⟩ .nil))

namespace Sources

/-- The registry after the step of the containers on a chain with a listing. -/
def listed (listing : List StackItem) : Metrics :=
  listingSources.scraped (listingReplies listing) FsChainJob.containerStep [] (.empty .fsChain)

/-- Both containers are shown, the first one with its second report, the other one with no size. -/
theorem containers_apart_zeros :
    Lists (fun q => listingReplies zeroListing (.watched q)) listingSources.containers zeroListing ∧
      ((listed zeroListing).labelsOf .containerSize).Perm
        [["11111111111111111111111111111112"], ["11111111111111111111111111111111"]] ∧
      (listed zeroListing).Tells .containerSize ["11111111111111111111111111111111"] 2048 ∧
      (listed zeroListing).Tells .containerSize ["11111111111111111111111111111112"] 0 := by
  have hlists : Lists (fun q => listingReplies zeroListing (.watched q)) listingSources.containers
      zeroListing := rfl
  obtain ⟨-, hread⟩ := containers_apart listingSources (listingReplies zeroListing) zeroListing hlists
  obtain ⟨reports, hreports, -, -, hshown⟩ := hread _
    ((ContainerContract.heard_usages_eq_ok_iff hlists).mpr ⟨_, reports_zeroListing, rfl⟩)
  obtain rfl : reports = zeroReports :=
    Relator.RightUnique.forall₂ (fun _ _ _ h h' => h.unique h') hreports reports_zeroListing
  obtain ⟨hsize, -⟩ := hshown [] (.empty .fsChain)
  have hzero : Base58.encode zeroId = "11111111111111111111111111111111" := by decide +kernel
  have hone : Base58.encode oneId = "11111111111111111111111111111112" := by decide +kernel
  refine ⟨hlists, ?_, ?_, ?_⟩
  · have hids : (zeroReports.map (·.id)).dedup = [oneId, zeroId] := by decide
    have happart : ∀ r ∈ zeroReports, ∀ r' ∈ zeroReports, r.key = r'.key → r.id = r'.id := by
      decide +kernel
    have hseries := hsize.series.mpr happart
    rwa [hids, List.map_cons, List.map_singleton, hzero, hone] at hseries
  · have hlast := hsize.last [⟨zeroId, 5, 2⟩, ⟨oneId, -7, 1⟩] ⟨zeroId, 2048, 9⟩ [] rfl nofun
    rwa [hzero] at hlast
  · have hlast := hsize.last [⟨zeroId, 5, 2⟩] ⟨oneId, -7, 1⟩ [⟨zeroId, 2048, 9⟩] rfl
      (by decide +kernel)
    rwa [hone] at hlast

end Sources

/-! ## Identifiers that run together -/

/-- Two identifiers whose series have one key. -/
def twinIds : List Bytes :=
  let shared : Bytes := [0x02, 0xde, 0x0b, 0x7a, 0xfd, 0x92, 0xd0, 0x3f, 0x1f, 0xb1, 0x0b, 0xb0,
    0x5d, 0x29, 0xea, 0x43, 0x39, 0xd0, 0xcb, 0x2c, 0x21, 0x58, 0x57, 0x70]
  [shared ++ [0x5f, 0xbe, 0x74, 0xbd, 0xf2, 0x5d, 0x0d, 0x9c],
    shared ++ [0x2d, 0x48, 0x8f, 0x46, 0x03, 0xb9, 0xa1, 0xb6]]

/-- A listing of both containers. -/
def twinListing : List StackItem :=
  twinIds.map fun id => .struct [.byteString id, .struct [.integer 1, .integer 1]]

/-- Two containers are listed and are two records, but only the first one has a series. -/
theorem Sources.containers_run_together :
    Lists (fun q => listingReplies twinListing (.watched q)) listingSources.containers twinListing ∧
      twinIds.Nodup ∧ (∀ id ∈ twinIds, id.length = 32) ∧
      (twinIds.map Base58.encode) = ["CCCCCCCCCCCCCCCCCCCCCCCCCCCCCCCCdhYaW7cPPsH",
        "CCCCCCCCCCCCCCCCCCCCCCCCCCCCCCCCVG1pKLxHQtV"] ∧
      (listed twinListing).labelsOf .containerSize =
        [["CCCCCCCCCCCCCCCCCCCCCCCCCCCCCCCCdhYaW7cPPsH"]] ∧
      (listed twinListing).labelsOf .containerObjects =
        [["CCCCCCCCCCCCCCCCCCCCCCCCCCCCCCCCdhYaW7cPPsH"]] := by
  refine ⟨rfl, by decide, by decide, ?_, ?_, ?_⟩
  · decide +kernel
  · decide +kernel
  · decide +kernel

end ChainGauge
