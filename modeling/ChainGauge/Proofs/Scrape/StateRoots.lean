import ChainGauge.Proofs.Scrape.Refill

/-!
# State roots at one height

The state roots of hosts are compared at the lowest height that a host told in the same iteration; a
height of zero counts as none. So the family of state roots shows one iteration at a time, and all of
its samples have one value, that height (`Metrics.roots_of_latest`). A root can be missing: a hash of
its host and its text tells samples apart, and where two have one hash only the first one is shown.

## Key results

- `FsChainJob.lowest?_eq_some_iff`: the height that is asked for
- `Round.about_roots`, `Round.asksAtLowest`: what an iteration changes of the state roots, and what it
  asks for
- `Metrics.roots_of_latest`: what the family shows after any iterations
- `Metrics.root_run_together`: a root that was told and is not shown
-/

namespace ChainGauge

open Update (replacing)

/-! ## The lowest height -/

/-- The lowest height of hosts that is not zero. -/
def IsLowest (heights : List (String × Nat)) (height : Nat) : Prop :=
  0 < height ∧ (∃ host, (host, height) ∈ heights) ∧ ∀ p ∈ heights, 0 < p.2 → height ≤ p.2

/-- The height that is asked for is the lowest one that is not zero. -/
theorem FsChainJob.lowest?_eq_some_iff {heights : List (String × Nat)} {height : Nat} :
    lowest? heights = some height ↔ IsLowest heights height := by
  rw [lowest?, List.min?_eq_some_iff]
  simp only [List.mem_filter, List.mem_map, decide_eq_true_eq, IsLowest]
  constructor
  · rintro ⟨⟨⟨⟨host, n⟩, hmem, rfl⟩, hpos⟩, hleast⟩
    exact ⟨hpos, ⟨host, hmem⟩, fun p hp hp0 => hleast p.2 ⟨⟨p, hp, rfl⟩, hp0⟩⟩
  · rintro ⟨hpos, ⟨host, hmem⟩, hleast⟩
    refine ⟨⟨⟨_, hmem, rfl⟩, hpos⟩, ?_⟩
    rintro _ ⟨⟨p, hp, rfl⟩, hp0⟩
    exact hleast p hp hp0

/-- There is none exactly if all heights are zero. -/
private theorem FsChainJob.lowest?_eq_none_iff {heights : List (String × Nat)} :
    lowest? heights = none ↔ ∀ p ∈ heights, p.2 = 0 := by
  rw [lowest?, List.min?_eq_none_iff, List.filter_eq_nil_iff, List.forall_mem_map]
  simp

/-! ## What an iteration read -/

/-- The height of a question for state roots. -/
def Source.rootHeight? : Source → Option Nat
  | .roots height => some height
  | _ => none

/-- What an iteration read of heights and state roots. -/
structure RootReading where
  heights : List (String × Nat)
  /-- The height that the roots were asked for at. -/
  height : Nat
  roots : List (String × String)

namespace Round

variable (r : Round)

/-- The heights that an iteration asked for state roots at, in turn. -/
def rootHeights : List Nat :=
  r.log.filterMap (·.source.rootHeight?)

/-- What an iteration read of heights and, with the question behind these, of state roots, if it read
both. -/
def roots? : Option RootReading := do
  let heights ← r.heights?
  let height ← FsChainJob.lowest? heights
  let roots := r.behind 7 1 (.roots height)
  if roots.isEmpty then none else some ⟨heights, height, roots⟩

end Round

/-! ## What an iteration changes -/

namespace Round

variable (r : Round)

/-- The changes of the family are told by what an iteration read. -/
theorem about_roots :
    Update.about .chainState r.updates =
      r.roots?.elim [] fun x => replacing .chainState (FsChainJob.rootEntries x.height x.roots) := by
  obtain ⟨job | job, a, listing⟩ := r
  · have hstage : (stages ⟨.fsChain job, a, listing⟩)[7]? = some FsChainJob.heightStage := rfl
    rw [about_stage _ hstage (by decide), roots?, heights?]
    dsimp only [FsChainJob.heightStage]
    -- From here on only the answers of this stage count.
    generalize behind _ 7 = b
    rw [FsChainJob.heightStep, Scrape.updates_ask]
    split
    · rfl
    · rw [Scrape.updates, Update.about_append, Update.about_replacing, if_neg (by decide),
        List.nil_append, Scrape.updates_whenSome, Update.about_elim]
      show _ = Option.elim (Option.bind (FsChainJob.lowest? (b 0 .heights)) _) [] _
      cases FsChainJob.lowest? (b 0 .heights) with
      | none => rfl
      | some height =>
        rw [Option.elim_some, Option.bind_some, FsChainJob.rootStep, Scrape.updates_ask]
        show Update.about .chainState
          (Scrape.updates (if (b 1 (.roots height)).isEmpty then _ else _) _) = _
        split
        · rfl
        · rw [Scrape.updates_put, Update.about_replacing, if_pos rfl]
          rfl
  · exact about_eq_nil_of_mainChain job a listing (by decide)

/-- Roots that were read are those at the lowest height of the same iteration. -/
private theorem lowest_of_roots {x : RootReading} (h : r.roots? = some x) :
    r.heights? = some x.heights ∧ IsLowest x.heights x.height ∧ x.roots ≠ [] := by
  simp only [roots?, Option.bind_eq_bind, Option.bind_eq_some_iff] at h
  obtain ⟨heights, hheights, height, hlowest, hread⟩ := h
  split at hread
  · cases hread
  · rename_i hne
    cases hread
    exact ⟨hheights, FsChainJob.lowest?_eq_some_iff.mp hlowest, by simpa using hne⟩

end Round

/-! ## What an iteration asks for -/

/-- A question that is not about state roots. -/
def Source.NotRoots (s : Source) : Prop :=
  s.rootHeight? = none

/-- Nobody asks for state roots when balances are looked up. -/
private theorem asks_publishBalances (listing : Listing) (family : Family)
    (keys : List PublicKey) : (publishBalances listing family keys).Asks Source.NotRoots :=
  Scrape.asks_askEach (fun _ _ hnext => ⟨rfl, fun _ => hnext _⟩) fun _ => Scrape.asks_put

private theorem asks_publishDeposits (listing : Listing) (family : Family)
    (keys : List PublicKey) : (publishDeposits listing family keys).Asks Source.NotRoots :=
  Scrape.asks_askEach (fun _ _ hnext => ⟨rfl, fun _ => hnext _⟩) fun _ => Scrape.asks_put

/-- Nor for tracked tokens. -/
private theorem asks_trackTokens (tokens : List TrackedToken) :
    (trackTokens tokens).Asks Source.NotRoots := by
  refine Scrape.asks_inTurn (List.forall_mem_map.mpr fun t _ => ?_)
  refine Scrape.asks_andThen (Scrape.asks_inTurn (List.forall_mem_map.mpr fun account _ => ?_)) ?_
  · exact ⟨rfl, fun x => Scrape.asks_whenSome fun v => Scrape.asks_put⟩
  · split
    · exact ⟨rfl, fun x => Scrape.asks_whenSome fun v => Scrape.asks_put⟩
    · trivial

namespace FsChainJob

variable (job : FsChainJob) (listing : Listing)

/-- Nor for the network map. -/
private theorem asks_netmapStep : (job.netmapStep listing).Asks Source.NotRoots := by
  refine ⟨rfl, fun nm => Scrape.asks_whenSome fun nm => ⟨rfl, fun cs =>
    Scrape.asks_whenSome fun cs => Scrape.asks_askEach (fun n next hnext => ?_) fun _ =>
      Scrape.asks_put⟩⟩
  exact ⟨rfl, fun gas => ⟨rfl, fun deposit => hnext _⟩⟩

/-- Nor for the alphabet. -/
private theorem asks_alphabetStep : (job.alphabetStep listing).Asks Source.NotRoots := by
  refine ⟨rfl, fun keys => Scrape.asks_whenSome fun keys => Scrape.asks_inTurn ?_⟩
  simp only [List.forall_mem_cons, List.not_mem_nil, false_implies, implies_true, and_true]
  refine ⟨Scrape.asks_put, asks_publishDeposits listing .alphabetDeposit keys, ?_⟩
  rw [divergenceStep]
  split
  · exact ⟨rfl, fun main => Scrape.asks_whenSome fun main => Scrape.asks_put⟩
  · trivial

/-- The stages in front of the heights do not ask for state roots. -/
private theorem asks_before :
    ∀ t ∈ ((Job.fsChain job).stages listing).take 7, t.scrape.Asks Source.NotRoots := by
  simp only [Job.stages, List.take_succ_cons, List.take_zero, List.forall_mem_cons,
    List.not_mem_nil, false_implies, implies_true, and_true]
  refine ⟨job.asks_netmapStep listing, ⟨rfl, fun keys => Scrape.asks_whenSome fun keys => ?_⟩,
    Scrape.asks_whenSome fun proxy => ⟨rfl, fun x => Scrape.asks_whenSome fun v => ?_⟩,
    ⟨rfl, fun x => Scrape.asks_whenSome fun v => ?_⟩, job.asks_alphabetStep listing,
    ⟨rfl, fun n => Scrape.asks_whenSome fun n => ?_⟩,
    ⟨rfl, fun us => Scrape.asks_whenSome fun us => ?_⟩⟩
  · exact asks_publishBalances listing .innerRingBalance keys
  all_goals exact Scrape.asks_put

end FsChainJob

namespace MainChainJob

/-- On the main chain nobody asks for state roots. -/
private theorem asks_scrape (job : MainChainJob) (listing : Listing) :
    (job.scrape listing).Asks Source.NotRoots := by
  refine Scrape.asks_inTurn ?_
  simp only [List.forall_mem_cons, List.not_mem_nil, false_implies, implies_true, and_true]
  refine ⟨⟨rfl, fun keys => Scrape.asks_whenSome fun keys => Scrape.asks_andThen Scrape.asks_put ?_⟩,
    Scrape.asks_whenSome fun neofs => ⟨rfl, fun x => Scrape.asks_whenSome fun v => ?_⟩,
    asks_trackTokens job.tokens⟩
  · exact asks_publishBalances listing .alphabetBalance keys
  · exact Scrape.asks_put

end MainChainJob

namespace FsChainJob

/-- The step of heights asks for state roots if some height is not zero. -/
private theorem rootHeights_heightStep (a : Answers) :
    (heightStep.log a).filterMap (·.source.rootHeight?) = (lowest? (a 0 .heights)).toList := by
  have hput (us : List Update) (a : Answers) : (Scrape.put us).log a = [] := rfl
  rw [heightStep, Scrape.log]
  split
  · rename_i hempty
    rw [List.isEmpty_iff.mp hempty]
    rfl
  -- Told some heights, the step asks once more, for the roots at the lowest.
  · rw [Scrape.log]
    cases lowest? (a 0 .heights) with
    | none => rfl
    | some height =>
      have hroots : (rootStep height).log (a.drop 1) = [⟨.roots height, a 1 (.roots height)⟩] := by
        rw [rootStep, Scrape.log]
        split
        · rfl
        · rw [hput]
          rfl
      rw [Scrape.whenSome, hroots]
      rfl

end FsChainJob

namespace Round

variable (r : Round)

/-- State roots are asked for at most once, and exactly at the lowest height that was heard of. -/
def AsksAtLowest : Prop :=
  (r.rootHeights = [] ∧ ∀ heights, r.heights? = some heights → ∀ p ∈ heights, p.2 = 0) ∨
    ∃ heights height, r.heights? = some heights ∧ IsLowest heights height ∧ r.rootHeights = [height]

/-- An iteration asks for state roots once, at the lowest height, if there is one, and otherwise not
at all. -/
theorem asksAtLowest : r.AsksAtLowest := by
  have hnone {log : List Exchange} (h : ∀ e ∈ log, e.source.NotRoots) :
      log.filterMap (·.source.rootHeight?) = [] :=
    List.filterMap_eq_nil_iff.mpr h
  obtain ⟨job | job, a, listing⟩ := r
  · have hstage : (stages ⟨.fsChain job, a, listing⟩)[7]? = some FsChainJob.heightStage := rfl
    obtain ⟨before, after, hlog, hothers⟩ := exists_log_eq _ hstage
    obtain ⟨hbefore, hafter⟩ := hothers Source.NotRoots
    have hasked : rootHeights ⟨.fsChain job, a, listing⟩ =
        (FsChainJob.lowest? (behind ⟨.fsChain job, a, listing⟩ 7 0 .heights)).toList := by
      rw [rootHeights, hlog, List.filterMap_append, List.filterMap_append,
        -- No other stage asks for state roots.
        hnone (hbefore (job.asks_before listing)), hnone (hafter ?_), List.nil_append,
        List.append_nil]
      · exact FsChainJob.rootHeights_heightStep _
      · exact List.forall_mem_singleton.mpr (asks_trackTokens job.tokens)
    rw [AsksAtLowest, hasked, heights?]
    dsimp only
    generalize behind _ 7 0 .heights = told
    cases hlowest : FsChainJob.lowest? told with
    | none =>
      refine .inl ⟨rfl, fun heights hheights => ?_⟩
      split at hheights
      · cases hheights
      · cases hheights
        exact FsChainJob.lowest?_eq_none_iff.mp hlowest
    | some height =>
      have htold : ¬ told.isEmpty := by
        intro hempty
        rw [List.isEmpty_iff.mp hempty] at hlowest
        cases hlowest
      exact .inr ⟨told, height, if_neg htold, FsChainJob.lowest?_eq_some_iff.mp hlowest, rfl⟩
  · refine .inl ⟨hnone ((job.asks_scrape listing).source_mem a), fun heights hheights => ?_⟩
    cases hheights

end Round

/-! ## After several iterations -/

namespace Metrics

/-- What the family of state roots shows of a reading. -/
structure ShowsRoots (m : Metrics) (x : RootReading) : Prop where
  lowest : IsLowest x.heights x.height
  read : x.roots ≠ []
  roots : m.Shows .chainState fun labels => ∃ p ∈ x.roots, labels = [p.1, p.2]
  /-- All samples have one value, the height. -/
  value : ∃ v, Binary64.IsNearest x.height v ∧ ∀ s ∈ m.samplesOf .chainState, s.value = v

/-- After any iterations, whatever was answered in them, the family of state roots shows the roots that
the latest iteration read at the lowest height that it heard of, all with this height; without such an
iteration it is as it was. And every iteration asks for roots at most once, at the lowest height that it
heard of. -/
theorem roots_of_latest (m : Metrics) (rounds : List Round) :
    (match latest Round.roots? rounds with
      | none => (m.after rounds).samplesOf .chainState = m.samplesOf .chainState
      | some x => (m.after rounds).ShowsRoots x) ∧
    ∀ r : Round, r.AsksAtLowest := by
  refine ⟨?_, Round.asksAtLowest⟩
  rcases samplesOf_after_replacing Round.about_roots m rounds with
    ⟨hread, hsamples⟩ | ⟨x, _, hread, hsamples⟩ <;> rw [hread]
  · exact hsamples
  · obtain ⟨r, -, hr⟩ := List.mem_filterMap.mp (List.mem_of_getLast? hread)
    obtain ⟨-, hlowest, hne⟩ := r.lowest_of_roots hr
    -- All roots of a round carry the height they were asked at.
    refine ⟨hlowest, hne, shows_of_samples hsamples fun labels => ?_,
      Binary64.nearestNat x.height, Binary64.isNearest_nearestNat _, fun s hs => ?_⟩
    · simp [FsChainJob.rootEntries, eq_comm]
    · rw [hsamples] at hs
      refine Sample.value_of_mem_collect (fun e he => ?_) hs
      obtain ⟨p, -, rfl⟩ := List.mem_map.mp he
      rfl

end Metrics

/-! ## Roots that run together -/

/-- Two roots of hosts, as long as roots are, that have one key. -/
def twinRoots : List (String × String) :=
  [("http://n1:30333", "0x0000000000000000000000000000000000000000000000008773850810fe0312"),
    ("http://n2:30333", "0x0000000000000000000000000000000000000000000000009672833dd26b96f0")]

/-- An iteration that hears of one height, and of the two roots. -/
def twinRootRound : Round where
  job := .fsChain ⟨.gas, none, false, none, []⟩
  answers := .always fun
    | .heights => [("http://n1:30333", 5), ("http://n2:30333", 5)]
    | .roots _ => twinRoots
    | s => s.unanswered

/-- Both roots were read, but only the first is shown. -/
theorem Metrics.root_run_together :
    (latest Round.roots? [twinRootRound]).map (·.roots) = some twinRoots ∧
      ((Metrics.empty .fsChain).after [twinRootRound]).labelsOf .chainState =
        [["http://n1:30333", "0x0000000000000000000000000000000000000000000000008773850810fe0312"]] := by
  constructor
  · rfl
  · decide +kernel

end ChainGauge
