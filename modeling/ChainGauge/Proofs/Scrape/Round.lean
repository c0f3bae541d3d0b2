import ChainGauge.Proofs.Number.Nearest
import ChainGauge.Proofs.Scrape.Stage

/-!
# Iterations

An iteration is one run of a scrape; the scrape, its setup, all answers and the orders in which hash
tables come out may differ from one iteration to the next. What a stage of it reads are the answers
that the stages before it leave (`Round.behind`). If the changes of a family depend on one reading only,
and each time leave nothing of the time before, then after any number of iterations the family shows
the latest iteration in which that reading succeeded (`Metrics.samplesOf_after`).

## Key results

- `Round.about_stage`: what an iteration makes of a family, from the stage that has it
- `Metrics.samplesOf_after`: a family shows the latest successful reading
- `Metrics.showsLatest_of_replacing`: the labels that it shows
-/

namespace ChainGauge

/-- One iteration: a scrape with what its questions bring, and the orders of its hash tables. -/
structure Round where
  job : Job
  answers : Answers
  listing : Listing := .asEntered

namespace Round

variable (r : Round)

/-- The stages of an iteration. -/
def stages : List Stage :=
  r.job.stages r.listing

/-- The registry after an iteration. -/
def run (m : Metrics) : Metrics :=
  (r.job.scrape r.listing).perform r.answers m

/-- What an iteration asked and heard. -/
def log : List Exchange :=
  (r.job.scrape r.listing).log r.answers

/-- The changes of an iteration. -/
def updates : List Update :=
  (r.job.scrape r.listing).updates r.answers

/-- The answers that the first `n` stages leave for the next one. -/
def behind (n : Nat) : Answers :=
  (Scrape.inTurn ((r.stages.take n).map (·.scrape))).left r.answers

end Round

/-- The registry after several iterations. -/
def Metrics.after (m : Metrics) (rounds : List Round) : Metrics :=
  rounds.foldl (fun acc r => r.run acc) m

/-- What the latest iteration read in which the reading succeeded. -/
def latest {α : Type} (read : Round → Option α) (rounds : List Round) : Option α :=
  (rounds.filterMap read).getLast?

/-- Under some labels the double is shown that is nearest to a natural number. -/
def Metrics.Tells (m : Metrics) (f : Family) (labels : List String) (n : Nat) : Prop :=
  ∃ x, m.value? f labels = some x ∧ Binary64.IsNearest n x

/-- Where all samples have one value, any labels tell it that have the key of some that are shown. -/
theorem Metrics.tells_of_forall {m : Metrics} {f : Family} {labels shown : List String} {n : Nat}
    (hvalue : ∀ s ∈ m.samplesOf f, s.value = Binary64.nearestNat n) (hshown : shown ∈ m.labelsOf f)
    (hkey : seriesKey shown = seriesKey labels) : m.Tells f labels n := by
  obtain ⟨s, hs, rfl⟩ := List.mem_map.mp hshown
  obtain ⟨t, ht⟩ := Option.isSome_iff_exists.mp
    (List.find?_isSome.mpr ⟨s, hs, decide_eq_true hkey⟩ :
      ((m.samplesOf f).find? (·.key = seriesKey labels)).isSome)
  refine ⟨t.value, by rw [value?, ht]; rfl, ?_⟩
  rw [hvalue t (List.mem_of_find?_eq_some ht)]
  exact Binary64.isNearest_nearestNat n

/-! ## One iteration -/

namespace Round

variable (r : Round) {f : Family} {i : Nat} {stage : Stage}

section Stages

variable (hstage : r.stages[i]? = some stage)
include hstage

/-- The stages in front of one and those behind it. -/
private theorem stages_split : r.stages = r.stages.take i ++ stage :: r.stages.drop (i + 1) := by
  obtain ⟨hi, hget⟩ := List.getElem?_eq_some_iff.mp hstage
  rw [← hget, List.getElem_cons_drop, List.take_append_drop]

/-- An iteration runs one of its stages between the others. -/
private theorem scrape_split :
    r.job.scrape r.listing =
      Scrape.inTurn ((r.stages.take i ++ stage :: r.stages.drop (i + 1)).map (·.scrape)) := by
  rw [← r.stages_split hstage]
  exact r.job.scrape_eq_stages r.listing

/-- What an iteration makes of a family is what the stage makes of it that has it. -/
theorem about_stage (hf : f ∈ stage.families) :
    Update.about f r.updates = Update.about f (stage.scrape.updates (r.behind i)) := by
  have hapart : r.stages.Pairwise Stage.Apart := r.job.stages_apart r.listing
  rw [r.stages_split hstage] at hapart
  obtain ⟨-, hback, hfront⟩ := List.pairwise_append.mp hapart
  rw [updates, r.scrape_split hstage]
  exact Scrape.about_inTurn
    (fun t ht hft => hfront t ht stage List.mem_cons_self f hft hf)
    (fun t ht => (List.pairwise_cons.mp hback).1 t ht f hf) r.answers

/-- What an iteration asks: what the stages in front of one ask, then what this one asks with the answers
that they leave, then what those behind it ask. -/
theorem exists_log_eq :
    ∃ before after, r.log = before ++ stage.scrape.log (r.behind i) ++ after ∧
      ∀ P : Source → Prop,
        ((∀ t ∈ r.stages.take i, t.scrape.Asks P) → ∀ e ∈ before, P e.source) ∧
        ((∀ t ∈ r.stages.drop (i + 1), t.scrape.Asks P) → ∀ e ∈ after, P e.source) := by
  rw [log, r.scrape_split hstage, List.map_append, List.map_cons, Scrape.inTurn_append,
    Scrape.log_andThen, Scrape.inTurn, Scrape.log_andThen, ← List.append_assoc]
  refine ⟨_, _, rfl, fun P => ⟨fun h => ?_, fun h => ?_⟩⟩
  · exact (Scrape.asks_inTurn (List.forall_mem_map.mpr h)).source_mem _
  · exact (Scrape.asks_inTurn (List.forall_mem_map.mpr h)).source_mem _

end Stages

/-- An iteration leaves a family alone that none of its stages has. -/
theorem about_eq_nil (h : ∀ t ∈ r.stages, f ∉ t.families) : Update.about f r.updates = [] := by
  rw [updates, r.job.scrape_eq_stages]
  exact Scrape.about_eq_nil_of_stages h r.answers

/-- The scrape of the main chain leaves all other families alone. -/
theorem about_eq_nil_of_mainChain (job : MainChainJob) (a : Answers) (listing : Listing)
    (hf : f ∉ MainChainJob.families) : Update.about f (updates ⟨.mainChain job, a, listing⟩) = [] :=
  about_eq_nil ⟨.mainChain job, a, listing⟩ fun t ht hmem =>
    hf (job.stages_within listing t ht hmem)

end Round

/-! ## The latest reading -/

section Latest

variable {α : Type} {read : Round → Option α} {f : Family}

/-- The latest reading is that of the last iteration, unless that failed. -/
theorem latest_concat (read : Round → Option α) (rounds : List Round) (r : Round) :
    latest read (rounds ++ [r]) = (read r).or (latest read rounds) := by
  rw [latest, List.filterMap_append]
  cases hr : read r with
  | none => simp [hr, latest]
  | some a => simp [hr]

namespace Metrics

/-- The registry after one iteration more. -/
theorem after_concat (m : Metrics) (rounds : List Round) (r : Round) :
    m.after (rounds ++ [r]) = r.run (m.after rounds) := by
  simp [after]

/-- What an iteration makes of a family is told by the changes that are about it. -/
theorem samplesOf_run (r : Round) (m : Metrics) (f : Family) :
    (r.run m).samplesOf f = refill (Update.about f r.updates) (m.samplesOf f) := by
  rw [Round.run, Scrape.perform_eq, samplesOf_applyAll]
  rfl

/-- A family whose changes depend on one reading, and leave nothing of an earlier one, shows the
latest reading that succeeded. -/
theorem samplesOf_after {changes : α → List Update}
    (hround : ∀ r : Round, Update.about f r.updates = (read r).elim [] changes)
    (hlast : ∀ a b samples,
      refill (changes a) (refill (changes b) samples) = refill (changes a) samples)
    (m : Metrics) (rounds : List Round) :
    (m.after rounds).samplesOf f =
      refill ((latest read rounds).elim [] changes) (m.samplesOf f) := by
  -- The run grows at its end: the last iteration either leaves what was shown or replaces it.
  induction rounds using List.reverseRecOn with
  | nil => rfl
  | append_singleton rounds r ih =>
    rw [after_concat, samplesOf_run, ih, hround, latest_concat]
    cases read r with
    | none => rfl
    | some a =>
      cases latest read rounds with
      | none => rfl
      | some b => exact hlast a b _

/-- Whether a family shows what the latest successful reading of a run named; where there was no such
reading, it is as before the run. -/
def ShowsLatest (m : Metrics) (rounds : List Round) (f : Family) (read : Round → Option α)
    (names : α → List String → Prop) : Prop :=
  match latest read rounds with
  | none => (m.after rounds).samplesOf f = m.samplesOf f
  | some a => (m.after rounds).Shows f (names a)

section Replacing

variable {entries : Round → α → List Entry}
  (hround : ∀ r : Round, Update.about f r.updates =
    (read r).elim [] fun a => Update.replacing f (entries r a))
  (m : Metrics) (rounds : List Round)
include hround

/-- A family that every successful reading replaces shows exactly the latest one. -/
theorem samplesOf_after_replacing :
    (latest read rounds = none ∧ (m.after rounds).samplesOf f = m.samplesOf f) ∨
      ∃ a r, latest read rounds = some a ∧
        (m.after rounds).samplesOf f = Sample.collect f (entries r a) := by
  induction rounds using List.reverseRecOn with
  | nil => exact .inl ⟨rfl, rfl⟩
  | append_singleton rounds r ih =>
    rw [after_concat, samplesOf_run, hround, latest_concat]
    cases read r with
    | none => exact ih
    | some a => exact .inr ⟨a, r, rfl, Sample.refill_replacing f _ _⟩

/-- It shows the labels of the entries, whatever else an iteration made of these. -/
theorem showsLatest_of_replacing {names : α → List String → Prop}
    (hnames : ∀ r a labels, labels ∈ (entries r a).map (·.1) ↔ names a labels) :
    m.ShowsLatest rounds f read names := by
  rw [ShowsLatest]
  rcases samplesOf_after_replacing hround m rounds with
    ⟨hread, hsamples⟩ | ⟨a, r, hread, hsamples⟩ <;> rw [hread]
  · exact hsamples
  · exact shows_of_samples hsamples (hnames r a)

end Replacing

end Metrics

end Latest

end ChainGauge
